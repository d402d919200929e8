import SmartHelmet.Unicode.Table
/-!
# Scripts

The script of every code point, numbered in the order of `scriptNames` (`Unknown`, the script
of unlisted code points, first), and the script extensions: the scripts a character is used
with, listed for the scripts whose extension differs from the script itself. Unicode 15.0.
-/

namespace SmartHelmet.Unicode

/-- The long names of the scripts, in the order the table numbers them. -/
def scriptNames : List String :=
  ["Unknown",
   "Adlam",
   "Ahom",
   "Anatolian_Hieroglyphs",
   "Arabic",
   "Armenian",
   "Avestan",
   "Balinese",
   "Bamum",
   "Bassa_Vah",
   "Batak",
   "Bengali",
   "Bhaiksuki",
   "Bopomofo",
   "Brahmi",
   "Braille",
   "Buginese",
   "Buhid",
   "Canadian_Aboriginal",
   "Carian",
   "Caucasian_Albanian",
   "Chakma",
   "Cham",
   "Cherokee",
   "Chorasmian",
   "Common",
   "Coptic",
   "Cuneiform",
   "Cypriot",
   "Cypro_Minoan",
   "Cyrillic",
   "Deseret",
   "Devanagari",
   "Dives_Akuru",
   "Dogra",
   "Duployan",
   "Egyptian_Hieroglyphs",
   "Elbasan",
   "Elymaic",
   "Ethiopic",
   "Georgian",
   "Glagolitic",
   "Gothic",
   "Grantha",
   "Greek",
   "Gujarati",
   "Gunjala_Gondi",
   "Gurmukhi",
   "Han",
   "Hangul",
   "Hanifi_Rohingya",
   "Hanunoo",
   "Hatran",
   "Hebrew",
   "Hiragana",
   "Imperial_Aramaic",
   "Inherited",
   "Inscriptional_Pahlavi",
   "Inscriptional_Parthian",
   "Javanese",
   "Kaithi",
   "Kannada",
   "Katakana",
   "Kawi",
   "Kayah_Li",
   "Kharoshthi",
   "Khitan_Small_Script",
   "Khmer",
   "Khojki",
   "Khudawadi",
   "Lao",
   "Latin",
   "Lepcha",
   "Limbu",
   "Linear_A",
   "Linear_B",
   "Lisu",
   "Lycian",
   "Lydian",
   "Mahajani",
   "Makasar",
   "Malayalam",
   "Mandaic",
   "Manichaean",
   "Marchen",
   "Masaram_Gondi",
   "Medefaidrin",
   "Meetei_Mayek",
   "Mende_Kikakui",
   "Meroitic_Cursive",
   "Meroitic_Hieroglyphs",
   "Miao",
   "Modi",
   "Mongolian",
   "Mro",
   "Multani",
   "Myanmar",
   "Nabataean",
   "Nag_Mundari",
   "Nandinagari",
   "New_Tai_Lue",
   "Newa",
   "Nko",
   "Nushu",
   "Nyiakeng_Puachue_Hmong",
   "Ogham",
   "Ol_Chiki",
   "Old_Hungarian",
   "Old_Italic",
   "Old_North_Arabian",
   "Old_Permic",
   "Old_Persian",
   "Old_Sogdian",
   "Old_South_Arabian",
   "Old_Turkic",
   "Old_Uyghur",
   "Oriya",
   "Osage",
   "Osmanya",
   "Pahawh_Hmong",
   "Palmyrene",
   "Pau_Cin_Hau",
   "Phags_Pa",
   "Phoenician",
   "Psalter_Pahlavi",
   "Rejang",
   "Runic",
   "Samaritan",
   "Saurashtra",
   "Sharada",
   "Shavian",
   "Siddham",
   "SignWriting",
   "Sinhala",
   "Sogdian",
   "Sora_Sompeng",
   "Soyombo",
   "Sundanese",
   "Syloti_Nagri",
   "Syriac",
   "Tagalog",
   "Tagbanwa",
   "Tai_Le",
   "Tai_Tham",
   "Tai_Viet",
   "Takri",
   "Tamil",
   "Tangsa",
   "Tangut",
   "Telugu",
   "Thaana",
   "Thai",
   "Tibetan",
   "Tifinagh",
   "Tirhuta",
   "Toto",
   "Ugaritic",
   "Vai",
   "Vithkuqi",
   "Wancho",
   "Warang_Citi",
   "Yezidi",
   "Yi",
   "Zanabazar_Square"]

/-- The scripts of the code points. -/
def scriptText : String :=
  String.join [
    "0-40=25 41-5a=71 5b-60=25 61-7a=71 7b-a9=25 aa=71 ab-b9=25 ba=71 bb-bf=25 c0-d6=71 d7=25 ",
    "d8-f6=71 f7=25 f8-2b8=71 2b9-2df=25 2e0-2e4=71 2e5-2e9=25 2ea-2eb=13 2ec-2ff=25 300-36f=56 ",
    "370-373=44 374=25 375-377=44 37a-37d=44 37e=25 37f=44 384=44 385=25 386=44 387=25 388-38a=44 ",
    "38c=44 38e-3a1=44 3a3-3e1=44 3e2-3ef=26 3f0-3ff=44 400-484=30 485-486=56 487-52f=30 531-556=5 ",
    "559-58a=5 58d-58f=5 591-5c7=53 5d0-5ea=53 5ef-5f4=53 600-604=4 605=25 606-60b=4 60c=25 60d-61a=4 ",
    "61b=25 61c-61e=4 61f=25 620-63f=4 640=25 641-64a=4 64b-655=56 656-66f=4 670=56 671-6dc=4 6dd=25 ",
    "6de-6ff=4 700-70d=139 70f-74a=139 74d-74f=139 750-77f=4 780-7b1=150 7c0-7fa=102 7fd-7ff=102 ",
    "800-82d=127 830-83e=127 840-85b=82 85e=82 860-86a=139 870-88e=4 890-891=4 898-8e1=4 8e2=25 ",
    "8e3-8ff=4 900-950=32 951-954=56 955-963=32 964-965=25 966-97f=32 980-983=11 985-98c=11 ",
    "98f-990=11 993-9a8=11 9aa-9b0=11 9b2=11 9b6-9b9=11 9bc-9c4=11 9c7-9c8=11 9cb-9ce=11 9d7=11 ",
    "9dc-9dd=11 9df-9e3=11 9e6-9fe=11 a01-a03=47 a05-a0a=47 a0f-a10=47 a13-a28=47 a2a-a30=47 ",
    "a32-a33=47 a35-a36=47 a38-a39=47 a3c=47 a3e-a42=47 a47-a48=47 a4b-a4d=47 a51=47 a59-a5c=47 ",
    "a5e=47 a66-a76=47 a81-a83=45 a85-a8d=45 a8f-a91=45 a93-aa8=45 aaa-ab0=45 ab2-ab3=45 ab5-ab9=45 ",
    "abc-ac5=45 ac7-ac9=45 acb-acd=45 ad0=45 ae0-ae3=45 ae6-af1=45 af9-aff=45 b01-b03=116 b05-b0c=116 ",
    "b0f-b10=116 b13-b28=116 b2a-b30=116 b32-b33=116 b35-b39=116 b3c-b44=116 b47-b48=116 b4b-b4d=116 ",
    "b55-b57=116 b5c-b5d=116 b5f-b63=116 b66-b77=116 b82-b83=146 b85-b8a=146 b8e-b90=146 b92-b95=146 ",
    "b99-b9a=146 b9c=146 b9e-b9f=146 ba3-ba4=146 ba8-baa=146 bae-bb9=146 bbe-bc2=146 bc6-bc8=146 ",
    "bca-bcd=146 bd0=146 bd7=146 be6-bfa=146 c00-c0c=149 c0e-c10=149 c12-c28=149 c2a-c39=149 ",
    "c3c-c44=149 c46-c48=149 c4a-c4d=149 c55-c56=149 c58-c5a=149 c5d=149 c60-c63=149 c66-c6f=149 ",
    "c77-c7f=149 c80-c8c=61 c8e-c90=61 c92-ca8=61 caa-cb3=61 cb5-cb9=61 cbc-cc4=61 cc6-cc8=61 ",
    "cca-ccd=61 cd5-cd6=61 cdd-cde=61 ce0-ce3=61 ce6-cef=61 cf1-cf3=61 d00-d0c=81 d0e-d10=81 ",
    "d12-d44=81 d46-d48=81 d4a-d4f=81 d54-d63=81 d66-d7f=81 d81-d83=133 d85-d96=133 d9a-db1=133 ",
    "db3-dbb=133 dbd=133 dc0-dc6=133 dca=133 dcf-dd4=133 dd6=133 dd8-ddf=133 de6-def=133 df2-df4=133 ",
    "e01-e3a=151 e3f=25 e40-e5b=151 e81-e82=70 e84=70 e86-e8a=70 e8c-ea3=70 ea5=70 ea7-ebd=70 ",
    "ec0-ec4=70 ec6=70 ec8-ece=70 ed0-ed9=70 edc-edf=70 f00-f47=152 f49-f6c=152 f71-f97=152 ",
    "f99-fbc=152 fbe-fcc=152 fce-fd4=152 fd5-fd8=25 fd9-fda=152 1000-109f=96 10a0-10c5=40 10c7=40 ",
    "10cd=40 10d0-10fa=40 10fb=25 10fc-10ff=40 1100-11ff=49 1200-1248=39 124a-124d=39 1250-1256=39 ",
    "1258=39 125a-125d=39 1260-1288=39 128a-128d=39 1290-12b0=39 12b2-12b5=39 12b8-12be=39 12c0=39 ",
    "12c2-12c5=39 12c8-12d6=39 12d8-1310=39 1312-1315=39 1318-135a=39 135d-137c=39 1380-1399=39 ",
    "13a0-13f5=23 13f8-13fd=23 1400-167f=18 1680-169c=105 16a0-16ea=126 16eb-16ed=25 16ee-16f8=126 ",
    "1700-1715=140 171f=140 1720-1734=51 1735-1736=25 1740-1753=17 1760-176c=141 176e-1770=141 ",
    "1772-1773=141 1780-17dd=67 17e0-17e9=67 17f0-17f9=67 1800-1801=93 1802-1803=25 1804=93 1805=25 ",
    "1806-1819=93 1820-1878=93 1880-18aa=93 18b0-18f5=18 1900-191e=73 1920-192b=73 1930-193b=73 ",
    "1940=73 1944-194f=73 1950-196d=142 1970-1974=142 1980-19ab=100 19b0-19c9=100 19d0-19da=100 ",
    "19de-19df=100 19e0-19ff=67 1a00-1a1b=16 1a1e-1a1f=16 1a20-1a5e=143 1a60-1a7c=143 1a7f-1a89=143 ",
    "1a90-1a99=143 1aa0-1aad=143 1ab0-1ace=56 1b00-1b4c=7 1b50-1b7e=7 1b80-1bbf=137 1bc0-1bf3=10 ",
    "1bfc-1bff=10 1c00-1c37=72 1c3b-1c49=72 1c4d-1c4f=72 1c50-1c7f=106 1c80-1c88=30 1c90-1cba=40 ",
    "1cbd-1cbf=40 1cc0-1cc7=137 1cd0-1cd2=56 1cd3=25 1cd4-1ce0=56 1ce1=25 1ce2-1ce8=56 1ce9-1cec=25 ",
    "1ced=56 1cee-1cf3=25 1cf4=56 1cf5-1cf7=25 1cf8-1cf9=56 1cfa=25 1d00-1d25=71 1d26-1d2a=44 1d2b=30 ",
    "1d2c-1d5c=71 1d5d-1d61=44 1d62-1d65=71 1d66-1d6a=44 1d6b-1d77=71 1d78=30 1d79-1dbe=71 1dbf=44 ",
    "1dc0-1dff=56 1e00-1eff=71 1f00-1f15=44 1f18-1f1d=44 1f20-1f45=44 1f48-1f4d=44 1f50-1f57=44 ",
    "1f59=44 1f5b=44 1f5d=44 1f5f-1f7d=44 1f80-1fb4=44 1fb6-1fc4=44 1fc6-1fd3=44 1fd6-1fdb=44 ",
    "1fdd-1fef=44 1ff2-1ff4=44 1ff6-1ffe=44 2000-200b=25 200c-200d=56 200e-2064=25 2066-2070=25 ",
    "2071=71 2074-207e=25 207f=71 2080-208e=25 2090-209c=71 20a0-20c0=25 20d0-20f0=56 2100-2125=25 ",
    "2126=44 2127-2129=25 212a-212b=71 212c-2131=25 2132=71 2133-214d=25 214e=71 214f-215f=25 ",
    "2160-2188=71 2189-218b=25 2190-2426=25 2440-244a=25 2460-27ff=25 2800-28ff=15 2900-2b73=25 ",
    "2b76-2b95=25 2b97-2bff=25 2c00-2c5f=41 2c60-2c7f=71 2c80-2cf3=26 2cf9-2cff=26 2d00-2d25=40 ",
    "2d27=40 2d2d=40 2d30-2d67=153 2d6f-2d70=153 2d7f=153 2d80-2d96=39 2da0-2da6=39 2da8-2dae=39 ",
    "2db0-2db6=39 2db8-2dbe=39 2dc0-2dc6=39 2dc8-2dce=39 2dd0-2dd6=39 2dd8-2dde=39 2de0-2dff=30 ",
    "2e00-2e5d=25 2e80-2e99=48 2e9b-2ef3=48 2f00-2fd5=48 2ff0-2ffb=25 3000-3004=25 3005=48 3006=25 ",
    "3007=48 3008-3020=25 3021-3029=48 302a-302d=56 302e-302f=49 3030-3037=25 3038-303b=48 ",
    "303c-303f=25 3041-3096=54 3099-309a=56 309b-309c=25 309d-309f=54 30a0=25 30a1-30fa=62 ",
    "30fb-30fc=25 30fd-30ff=62 3105-312f=13 3131-318e=49 3190-319f=25 31a0-31bf=13 31c0-31e3=25 ",
    "31f0-31ff=62 3200-321e=49 3220-325f=25 3260-327e=49 327f-32cf=25 32d0-32fe=62 32ff=25 ",
    "3300-3357=62 3358-33ff=25 3400-4dbf=48 4dc0-4dff=25 4e00-9fff=48 a000-a48c=162 a490-a4c6=162 ",
    "a4d0-a4ff=76 a500-a62b=157 a640-a69f=30 a6a0-a6f7=8 a700-a721=25 a722-a787=71 a788-a78a=25 ",
    "a78b-a7ca=71 a7d0-a7d1=71 a7d3=71 a7d5-a7d9=71 a7f2-a7ff=71 a800-a82c=138 a830-a839=25 ",
    "a840-a877=122 a880-a8c5=128 a8ce-a8d9=128 a8e0-a8ff=32 a900-a92d=64 a92e=25 a92f=64 ",
    "a930-a953=125 a95f=125 a960-a97c=49 a980-a9cd=59 a9cf=25 a9d0-a9d9=59 a9de-a9df=59 a9e0-a9fe=96 ",
    "aa00-aa36=22 aa40-aa4d=22 aa50-aa59=22 aa5c-aa5f=22 aa60-aa7f=96 aa80-aac2=144 aadb-aadf=144 ",
    "aae0-aaf6=87 ab01-ab06=39 ab09-ab0e=39 ab11-ab16=39 ab20-ab26=39 ab28-ab2e=39 ab30-ab5a=71 ",
    "ab5b=25 ab5c-ab64=71 ab65=44 ab66-ab69=71 ab6a-ab6b=25 ab70-abbf=23 abc0-abed=87 abf0-abf9=87 ",
    "ac00-d7a3=49 d7b0-d7c6=49 d7cb-d7fb=49 f900-fa6d=48 fa70-fad9=48 fb00-fb06=71 fb13-fb17=5 ",
    "fb1d-fb36=53 fb38-fb3c=53 fb3e=53 fb40-fb41=53 fb43-fb44=53 fb46-fb4f=53 fb50-fbc2=4 fbd3-fd3d=4 ",
    "fd3e-fd3f=25 fd40-fd8f=4 fd92-fdc7=4 fdcf=4 fdf0-fdff=4 fe00-fe0f=56 fe10-fe19=25 fe20-fe2d=56 ",
    "fe2e-fe2f=30 fe30-fe52=25 fe54-fe66=25 fe68-fe6b=25 fe70-fe74=4 fe76-fefc=4 feff=25 ff01-ff20=25 ",
    "ff21-ff3a=71 ff3b-ff40=25 ff41-ff5a=71 ff5b-ff65=25 ff66-ff6f=62 ff70=25 ff71-ff9d=62 ",
    "ff9e-ff9f=25 ffa0-ffbe=49 ffc2-ffc7=49 ffca-ffcf=49 ffd2-ffd7=49 ffda-ffdc=49 ffe0-ffe6=25 ",
    "ffe8-ffee=25 fff9-fffd=25 10000-1000b=75 1000d-10026=75 10028-1003a=75 1003c-1003d=75 ",
    "1003f-1004d=75 10050-1005d=75 10080-100fa=75 10100-10102=25 10107-10133=25 10137-1013f=25 ",
    "10140-1018e=44 10190-1019c=25 101a0=44 101d0-101fc=25 101fd=56 10280-1029c=77 102a0-102d0=19 ",
    "102e0=56 102e1-102fb=25 10300-10323=108 1032d-1032f=108 10330-1034a=42 10350-1037a=110 ",
    "10380-1039d=156 1039f=156 103a0-103c3=111 103c8-103d5=111 10400-1044f=31 10450-1047f=130 ",
    "10480-1049d=118 104a0-104a9=118 104b0-104d3=117 104d8-104fb=117 10500-10527=37 10530-10563=20 ",
    "1056f=20 10570-1057a=158 1057c-1058a=158 1058c-10592=158 10594-10595=158 10597-105a1=158 ",
    "105a3-105b1=158 105b3-105b9=158 105bb-105bc=158 10600-10736=74 10740-10755=74 10760-10767=74 ",
    "10780-10785=71 10787-107b0=71 107b2-107ba=71 10800-10805=28 10808=28 1080a-10835=28 ",
    "10837-10838=28 1083c=28 1083f=28 10840-10855=55 10857-1085f=55 10860-1087f=120 10880-1089e=97 ",
    "108a7-108af=97 108e0-108f2=52 108f4-108f5=52 108fb-108ff=52 10900-1091b=123 1091f=123 ",
    "10920-10939=78 1093f=78 10980-1099f=90 109a0-109b7=89 109bc-109cf=89 109d2-109ff=89 ",
    "10a00-10a03=65 10a05-10a06=65 10a0c-10a13=65 10a15-10a17=65 10a19-10a35=65 10a38-10a3a=65 ",
    "10a3f-10a48=65 10a50-10a58=65 10a60-10a7f=113 10a80-10a9f=109 10ac0-10ae6=83 10aeb-10af6=83 ",
    "10b00-10b35=6 10b39-10b3f=6 10b40-10b55=58 10b58-10b5f=58 10b60-10b72=57 10b78-10b7f=57 ",
    "10b80-10b91=124 10b99-10b9c=124 10ba9-10baf=124 10c00-10c48=114 10c80-10cb2=107 10cc0-10cf2=107 ",
    "10cfa-10cff=107 10d00-10d27=50 10d30-10d39=50 10e60-10e7e=4 10e80-10ea9=161 10eab-10ead=161 ",
    "10eb0-10eb1=161 10efd-10eff=4 10f00-10f27=112 10f30-10f59=134 10f70-10f89=115 10fb0-10fcb=24 ",
    "10fe0-10ff6=38 11000-1104d=14 11052-11075=14 1107f=14 11080-110c2=60 110cd=60 110d0-110e8=135 ",
    "110f0-110f9=135 11100-11134=21 11136-11147=21 11150-11176=79 11180-111df=129 111e1-111f4=133 ",
    "11200-11211=68 11213-11241=68 11280-11286=95 11288=95 1128a-1128d=95 1128f-1129d=95 ",
    "1129f-112a9=95 112b0-112ea=69 112f0-112f9=69 11300-11303=43 11305-1130c=43 1130f-11310=43 ",
    "11313-11328=43 1132a-11330=43 11332-11333=43 11335-11339=43 1133b=56 1133c-11344=43 ",
    "11347-11348=43 1134b-1134d=43 11350=43 11357=43 1135d-11363=43 11366-1136c=43 11370-11374=43 ",
    "11400-1145b=101 1145d-11461=101 11480-114c7=154 114d0-114d9=154 11580-115b5=131 115b8-115dd=131 ",
    "11600-11644=92 11650-11659=92 11660-1166c=93 11680-116b9=145 116c0-116c9=145 11700-1171a=2 ",
    "1171d-1172b=2 11730-11746=2 11800-1183b=34 118a0-118f2=160 118ff=160 11900-11906=33 11909=33 ",
    "1190c-11913=33 11915-11916=33 11918-11935=33 11937-11938=33 1193b-11946=33 11950-11959=33 ",
    "119a0-119a7=99 119aa-119d7=99 119da-119e4=99 11a00-11a47=163 11a50-11aa2=136 11ab0-11abf=18 ",
    "11ac0-11af8=121 11b00-11b09=32 11c00-11c08=12 11c0a-11c36=12 11c38-11c45=12 11c50-11c6c=12 ",
    "11c70-11c8f=84 11c92-11ca7=84 11ca9-11cb6=84 11d00-11d06=85 11d08-11d09=85 11d0b-11d36=85 ",
    "11d3a=85 11d3c-11d3d=85 11d3f-11d47=85 11d50-11d59=85 11d60-11d65=46 11d67-11d68=46 ",
    "11d6a-11d8e=46 11d90-11d91=46 11d93-11d98=46 11da0-11da9=46 11ee0-11ef8=80 11f00-11f10=63 ",
    "11f12-11f3a=63 11f3e-11f59=63 11fb0=76 11fc0-11ff1=146 11fff=146 12000-12399=27 12400-1246e=27 ",
    "12470-12474=27 12480-12543=27 12f90-12ff2=29 13000-13455=36 14400-14646=3 16800-16a38=8 ",
    "16a40-16a5e=94 16a60-16a69=94 16a6e-16a6f=94 16a70-16abe=147 16ac0-16ac9=147 16ad0-16aed=9 ",
    "16af0-16af5=9 16b00-16b45=119 16b50-16b59=119 16b5b-16b61=119 16b63-16b77=119 16b7d-16b8f=119 ",
    "16e40-16e9a=86 16f00-16f4a=91 16f4f-16f87=91 16f8f-16f9f=91 16fe0=148 16fe1=103 16fe2-16fe3=48 ",
    "16fe4=66 16ff0-16ff1=48 17000-187f7=148 18800-18aff=148 18b00-18cd5=66 18d00-18d08=148 ",
    "1aff0-1aff3=62 1aff5-1affb=62 1affd-1affe=62 1b000=62 1b001-1b11f=54 1b120-1b122=62 1b132=54 ",
    "1b150-1b152=54 1b155=62 1b164-1b167=62 1b170-1b2fb=103 1bc00-1bc6a=35 1bc70-1bc7c=35 ",
    "1bc80-1bc88=35 1bc90-1bc99=35 1bc9c-1bc9f=35 1bca0-1bca3=25 1cf00-1cf2d=56 1cf30-1cf46=56 ",
    "1cf50-1cfc3=25 1d000-1d0f5=25 1d100-1d126=25 1d129-1d166=25 1d167-1d169=56 1d16a-1d17a=25 ",
    "1d17b-1d182=56 1d183-1d184=25 1d185-1d18b=56 1d18c-1d1a9=25 1d1aa-1d1ad=56 1d1ae-1d1ea=25 ",
    "1d200-1d245=44 1d2c0-1d2d3=25 1d2e0-1d2f3=25 1d300-1d356=25 1d360-1d378=25 1d400-1d454=25 ",
    "1d456-1d49c=25 1d49e-1d49f=25 1d4a2=25 1d4a5-1d4a6=25 1d4a9-1d4ac=25 1d4ae-1d4b9=25 1d4bb=25 ",
    "1d4bd-1d4c3=25 1d4c5-1d505=25 1d507-1d50a=25 1d50d-1d514=25 1d516-1d51c=25 1d51e-1d539=25 ",
    "1d53b-1d53e=25 1d540-1d544=25 1d546=25 1d54a-1d550=25 1d552-1d6a5=25 1d6a8-1d7cb=25 ",
    "1d7ce-1d7ff=25 1d800-1da8b=132 1da9b-1da9f=132 1daa1-1daaf=132 1df00-1df1e=71 1df25-1df2a=71 ",
    "1e000-1e006=41 1e008-1e018=41 1e01b-1e021=41 1e023-1e024=41 1e026-1e02a=41 1e030-1e06d=30 ",
    "1e08f=30 1e100-1e12c=104 1e130-1e13d=104 1e140-1e149=104 1e14e-1e14f=104 1e290-1e2ae=155 ",
    "1e2c0-1e2f9=159 1e2ff=159 1e4d0-1e4f9=98 1e7e0-1e7e6=39 1e7e8-1e7eb=39 1e7ed-1e7ee=39 ",
    "1e7f0-1e7fe=39 1e800-1e8c4=88 1e8c7-1e8d6=88 1e900-1e94b=1 1e950-1e959=1 1e95e-1e95f=1 ",
    "1ec71-1ecb4=25 1ed01-1ed3d=25 1ee00-1ee03=4 1ee05-1ee1f=4 1ee21-1ee22=4 1ee24=4 1ee27=4 ",
    "1ee29-1ee32=4 1ee34-1ee37=4 1ee39=4 1ee3b=4 1ee42=4 1ee47=4 1ee49=4 1ee4b=4 1ee4d-1ee4f=4 ",
    "1ee51-1ee52=4 1ee54=4 1ee57=4 1ee59=4 1ee5b=4 1ee5d=4 1ee5f=4 1ee61-1ee62=4 1ee64=4 ",
    "1ee67-1ee6a=4 1ee6c-1ee72=4 1ee74-1ee77=4 1ee79-1ee7c=4 1ee7e=4 1ee80-1ee89=4 1ee8b-1ee9b=4 ",
    "1eea1-1eea3=4 1eea5-1eea9=4 1eeab-1eebb=4 1eef0-1eef1=4 1f000-1f02b=25 1f030-1f093=25 ",
    "1f0a0-1f0ae=25 1f0b1-1f0bf=25 1f0c1-1f0cf=25 1f0d1-1f0f5=25 1f100-1f1ad=25 1f1e6-1f1ff=25 ",
    "1f200=54 1f201-1f202=25 1f210-1f23b=25 1f240-1f248=25 1f250-1f251=25 1f260-1f265=25 ",
    "1f300-1f6d7=25 1f6dc-1f6ec=25 1f6f0-1f6fc=25 1f700-1f776=25 1f77b-1f7d9=25 1f7e0-1f7eb=25 ",
    "1f7f0=25 1f800-1f80b=25 1f810-1f847=25 1f850-1f859=25 1f860-1f887=25 1f890-1f8ad=25 ",
    "1f8b0-1f8b1=25 1f900-1fa53=25 1fa60-1fa6d=25 1fa70-1fa7c=25 1fa80-1fa88=25 1fa90-1fabd=25 ",
    "1fabf-1fac5=25 1face-1fadb=25 1fae0-1fae8=25 1faf0-1faf8=25 1fb00-1fb92=25 1fb94-1fbca=25 ",
    "1fbf0-1fbf9=25 20000-2a6df=48 2a700-2b739=48 2b740-2b81d=48 2b820-2cea1=48 2ceb0-2ebe0=48 ",
    "2f800-2fa1d=48 30000-3134a=48 31350-323af=48 e0001=25 e0020-e007f=25 e0100-e01ef=56"]

/-- The table of scripts. -/
def scriptTable : RangeMap := .ofText scriptText

/-- Loose aliases of scripts and their long names, entries `alias=Name`. -/
def scriptAliases : String :=
  String.join [
    "adlam=Adlam adlm=Adlam aghb=Caucasian_Albanian ahom=Ahom ",
    "anatolianhieroglyphs=Anatolian_Hieroglyphs arab=Arabic arabic=Arabic armenian=Armenian ",
    "armi=Imperial_Aramaic armn=Armenian avestan=Avestan avst=Avestan bali=Balinese balinese=Balinese ",
    "bamu=Bamum bamum=Bamum bass=Bassa_Vah bassavah=Bassa_Vah batak=Batak batk=Batak beng=Bengali ",
    "bengali=Bengali bhaiksuki=Bhaiksuki bhks=Bhaiksuki bopo=Bopomofo bopomofo=Bopomofo brah=Brahmi ",
    "brahmi=Brahmi brai=Braille braille=Braille bugi=Buginese buginese=Buginese buhd=Buhid ",
    "buhid=Buhid cakm=Chakma canadianaboriginal=Canadian_Aboriginal cans=Canadian_Aboriginal ",
    "cari=Carian carian=Carian caucasianalbanian=Caucasian_Albanian chakma=Chakma cham=Cham ",
    "cher=Cherokee cherokee=Cherokee chorasmian=Chorasmian chrs=Chorasmian common=Common copt=Coptic ",
    "coptic=Coptic cpmn=Cypro_Minoan cprt=Cypriot cuneiform=Cuneiform cypriot=Cypriot ",
    "cyprominoan=Cypro_Minoan cyrillic=Cyrillic cyrl=Cyrillic deseret=Deseret deva=Devanagari ",
    "devanagari=Devanagari diak=Dives_Akuru divesakuru=Dives_Akuru dogr=Dogra dogra=Dogra ",
    "dsrt=Deseret dupl=Duployan duployan=Duployan egyp=Egyptian_Hieroglyphs ",
    "egyptianhieroglyphs=Egyptian_Hieroglyphs elba=Elbasan elbasan=Elbasan elym=Elymaic ",
    "elymaic=Elymaic ethi=Ethiopic ethiopic=Ethiopic geor=Georgian georgian=Georgian glag=Glagolitic ",
    "glagolitic=Glagolitic gong=Gunjala_Gondi gonm=Masaram_Gondi goth=Gothic gothic=Gothic ",
    "gran=Grantha grantha=Grantha greek=Greek grek=Greek gujarati=Gujarati gujr=Gujarati ",
    "gunjalagondi=Gunjala_Gondi gurmukhi=Gurmukhi guru=Gurmukhi han=Han hang=Hangul hangul=Hangul ",
    "hani=Han hanifirohingya=Hanifi_Rohingya hano=Hanunoo hanunoo=Hanunoo hatr=Hatran hatran=Hatran ",
    "hebr=Hebrew hebrew=Hebrew hira=Hiragana hiragana=Hiragana hluw=Anatolian_Hieroglyphs ",
    "hmng=Pahawh_Hmong hmnp=Nyiakeng_Puachue_Hmong hung=Old_Hungarian ",
    "imperialaramaic=Imperial_Aramaic inherited=Inherited inscriptionalpahlavi=Inscriptional_Pahlavi ",
    "inscriptionalparthian=Inscriptional_Parthian ital=Old_Italic java=Javanese javanese=Javanese ",
    "kaithi=Kaithi kali=Kayah_Li kana=Katakana kannada=Kannada katakana=Katakana kawi=Kawi ",
    "kayahli=Kayah_Li khar=Kharoshthi kharoshthi=Kharoshthi khitansmallscript=Khitan_Small_Script ",
    "khmer=Khmer khmr=Khmer khoj=Khojki khojki=Khojki khudawadi=Khudawadi kits=Khitan_Small_Script ",
    "knda=Kannada kthi=Kaithi lana=Tai_Tham lao=Lao laoo=Lao latin=Latin latn=Latin lepc=Lepcha ",
    "lepcha=Lepcha limb=Limbu limbu=Limbu lina=Linear_A linb=Linear_B lineara=Linear_A ",
    "linearb=Linear_B lisu=Lisu lyci=Lycian lycian=Lycian lydi=Lydian lydian=Lydian mahajani=Mahajani ",
    "mahj=Mahajani maka=Makasar makasar=Makasar malayalam=Malayalam mand=Mandaic mandaic=Mandaic ",
    "mani=Manichaean manichaean=Manichaean marc=Marchen marchen=Marchen masaramgondi=Masaram_Gondi ",
    "medefaidrin=Medefaidrin medf=Medefaidrin meeteimayek=Meetei_Mayek mend=Mende_Kikakui ",
    "mendekikakui=Mende_Kikakui merc=Meroitic_Cursive mero=Meroitic_Hieroglyphs ",
    "meroiticcursive=Meroitic_Cursive meroitichieroglyphs=Meroitic_Hieroglyphs miao=Miao ",
    "mlym=Malayalam modi=Modi mong=Mongolian mongolian=Mongolian mro=Mro mroo=Mro mtei=Meetei_Mayek ",
    "mult=Multani multani=Multani myanmar=Myanmar mymr=Myanmar nabataean=Nabataean nagm=Nag_Mundari ",
    "nagmundari=Nag_Mundari nand=Nandinagari nandinagari=Nandinagari narb=Old_North_Arabian ",
    "nbat=Nabataean newa=Newa newtailue=New_Tai_Lue nko=Nko nkoo=Nko nshu=Nushu nushu=Nushu ",
    "nyiakengpuachuehmong=Nyiakeng_Puachue_Hmong ogam=Ogham ogham=Ogham olchiki=Ol_Chiki ",
    "olck=Ol_Chiki oldhungarian=Old_Hungarian olditalic=Old_Italic oldnortharabian=Old_North_Arabian ",
    "oldpermic=Old_Permic oldpersian=Old_Persian oldsogdian=Old_Sogdian ",
    "oldsoutharabian=Old_South_Arabian oldturkic=Old_Turkic olduyghur=Old_Uyghur oriya=Oriya ",
    "orkh=Old_Turkic orya=Oriya osage=Osage osge=Osage osma=Osmanya osmanya=Osmanya ougr=Old_Uyghur ",
    "pahawhhmong=Pahawh_Hmong palm=Palmyrene palmyrene=Palmyrene pauc=Pau_Cin_Hau ",
    "paucinhau=Pau_Cin_Hau perm=Old_Permic phag=Phags_Pa phagspa=Phags_Pa phli=Inscriptional_Pahlavi ",
    "phlp=Psalter_Pahlavi phnx=Phoenician phoenician=Phoenician plrd=Miao prti=Inscriptional_Parthian ",
    "psalterpahlavi=Psalter_Pahlavi qaac=Coptic qaai=Inherited rejang=Rejang rjng=Rejang ",
    "rohg=Hanifi_Rohingya runic=Runic runr=Runic samaritan=Samaritan samr=Samaritan ",
    "sarb=Old_South_Arabian saur=Saurashtra saurashtra=Saurashtra sgnw=SignWriting sharada=Sharada ",
    "shavian=Shavian shaw=Shavian shrd=Sharada sidd=Siddham siddham=Siddham signwriting=SignWriting ",
    "sind=Khudawadi sinh=Sinhala sinhala=Sinhala sogd=Sogdian sogdian=Sogdian sogo=Old_Sogdian ",
    "sora=Sora_Sompeng sorasompeng=Sora_Sompeng soyo=Soyombo soyombo=Soyombo sund=Sundanese ",
    "sundanese=Sundanese sylo=Syloti_Nagri sylotinagri=Syloti_Nagri syrc=Syriac syriac=Syriac ",
    "tagalog=Tagalog tagb=Tagbanwa tagbanwa=Tagbanwa taile=Tai_Le taitham=Tai_Tham taiviet=Tai_Viet ",
    "takr=Takri takri=Takri tale=Tai_Le talu=New_Tai_Lue tamil=Tamil taml=Tamil tang=Tangut ",
    "tangsa=Tangsa tangut=Tangut tavt=Tai_Viet telu=Telugu telugu=Telugu tfng=Tifinagh tglg=Tagalog ",
    "thaa=Thaana thaana=Thaana thai=Thai tibetan=Tibetan tibt=Tibetan tifinagh=Tifinagh tirh=Tirhuta ",
    "tirhuta=Tirhuta tnsa=Tangsa toto=Toto ugar=Ugaritic ugaritic=Ugaritic unknown=Unknown vai=Vai ",
    "vaii=Vai vith=Vithkuqi vithkuqi=Vithkuqi wancho=Wancho wara=Warang_Citi warangciti=Warang_Citi ",
    "wcho=Wancho xpeo=Old_Persian xsux=Cuneiform yezi=Yezidi yezidi=Yezidi yi=Yi yiii=Yi ",
    "zanabazarsquare=Zanabazar_Square zanb=Zanabazar_Square zinh=Inherited zyyy=Common zzzz=Unknown"]

/-- The script extension of a script, as ranges, when it differs from the script. -/
def scriptExtensionText (script : String) : Option String :=
  match script with
  | "Adlam" =>
    some (String.join [
      "61f 640 1e900-1e94b 1e950-1e959 1e95e-1e95f"])
  | "Arabic" =>
    some (String.join [
      "600-604 606-6dc 6de-6ff 750-77f 870-88e 890-891 898-8e1 8e3-8ff fb50-fbc2 fbd3-fd8f fd92-fdc7 ",
      "fdcf fdf0-fdff fe70-fe74 fe76-fefc 102e0-102fb 10e60-10e7e 10efd-10eff 1ee00-1ee03 1ee05-1ee1f ",
      "1ee21-1ee22 1ee24 1ee27 1ee29-1ee32 1ee34-1ee37 1ee39 1ee3b 1ee42 1ee47 1ee49 1ee4b 1ee4d-1ee4f ",
      "1ee51-1ee52 1ee54 1ee57 1ee59 1ee5b 1ee5d 1ee5f 1ee61-1ee62 1ee64 1ee67-1ee6a 1ee6c-1ee72 ",
      "1ee74-1ee77 1ee79-1ee7c 1ee7e 1ee80-1ee89 1ee8b-1ee9b 1eea1-1eea3 1eea5-1eea9 1eeab-1eebb ",
      "1eef0-1eef1"])
  | "Bengali" =>
    some (String.join [
      "951-952 964-965 980-983 985-98c 98f-990 993-9a8 9aa-9b0 9b2 9b6-9b9 9bc-9c4 9c7-9c8 9cb-9ce 9d7 ",
      "9dc-9dd 9df-9e3 9e6-9fe 1cd0 1cd2 1cd5-1cd6 1cd8 1ce1 1cea 1ced 1cf2 1cf5-1cf7 a8f1"])
  | "Bopomofo" =>
    some (String.join [
      "2ea-2eb 3001-3003 3008-3011 3013-301f 302a-302d 3030 3037 30fb 3105-312f 31a0-31bf fe45-fe46 ",
      "ff61-ff65"])
  | "Buginese" =>
    some (String.join [
      "1a00-1a1b 1a1e-1a1f a9cf"])
  | "Buhid" =>
    some (String.join [
      "1735-1736 1740-1753"])
  | "Chakma" =>
    some (String.join [
      "9e6-9ef 1040-1049 11100-11134 11136-11147"])
  | "Common" =>
    some (String.join [
      "0-40 5b-60 7b-a9 ab-b9 bb-bf d7 f7 2b9-2df 2e5-2e9 2ec-2ff 374 37e 385 387 605 6dd 8e2 e3f ",
      "fd5-fd8 16eb-16ed 2000-200b 200e-202e 2030-2064 2066-2070 2074-207e 2080-208e 20a0-20c0 ",
      "2100-2125 2127-2129 212c-2131 2133-214d 214f-215f 2189-218b 2190-2426 2440-244a 2460-27ff ",
      "2900-2b73 2b76-2b95 2b97-2bff 2e00-2e42 2e44-2e5d 2ff0-2ffb 3000 3004 3012 3020 3036 3248-325f ",
      "327f 32b1-32bf 32cc-32cf 3371-337a 3380-33df 33ff 4dc0-4dff a708-a721 a788-a78a ab5b ab6a-ab6b ",
      "fe10-fe19 fe30-fe44 fe47-fe52 fe54-fe66 fe68-fe6b feff ff01-ff20 ff3b-ff40 ff5b-ff60 ffe0-ffe6 ",
      "ffe8-ffee fff9-fffd 10190-1019c 101d0-101fc 1cf50-1cfc3 1d000-1d0f5 1d100-1d126 1d129-1d166 ",
      "1d16a-1d17a 1d183-1d184 1d18c-1d1a9 1d1ae-1d1ea 1d2c0-1d2d3 1d2e0-1d2f3 1d300-1d356 1d372-1d378 ",
      "1d400-1d454 1d456-1d49c 1d49e-1d49f 1d4a2 1d4a5-1d4a6 1d4a9-1d4ac 1d4ae-1d4b9 1d4bb 1d4bd-1d4c3 ",
      "1d4c5-1d505 1d507-1d50a 1d50d-1d514 1d516-1d51c 1d51e-1d539 1d53b-1d53e 1d540-1d544 1d546 ",
      "1d54a-1d550 1d552-1d6a5 1d6a8-1d7cb 1d7ce-1d7ff 1ec71-1ecb4 1ed01-1ed3d 1f000-1f02b 1f030-1f093 ",
      "1f0a0-1f0ae 1f0b1-1f0bf 1f0c1-1f0cf 1f0d1-1f0f5 1f100-1f1ad 1f1e6-1f1ff 1f201-1f202 1f210-1f23b ",
      "1f240-1f248 1f260-1f265 1f300-1f6d7 1f6dc-1f6ec 1f6f0-1f6fc 1f700-1f776 1f77b-1f7d9 1f7e0-1f7eb ",
      "1f7f0 1f800-1f80b 1f810-1f847 1f850-1f859 1f860-1f887 1f890-1f8ad 1f8b0-1f8b1 1f900-1fa53 ",
      "1fa60-1fa6d 1fa70-1fa7c 1fa80-1fa88 1fa90-1fabd 1fabf-1fac5 1face-1fadb 1fae0-1fae8 1faf0-1faf8 ",
      "1fb00-1fb92 1fb94-1fbca 1fbf0-1fbf9 e0001 e0020-e007f"])
  | "Coptic" =>
    some (String.join [
      "3e2-3ef 2c80-2cf3 2cf9-2cff 102e0-102fb"])
  | "Cypriot" =>
    some (String.join [
      "10100-10102 10107-10133 10137-1013f 10800-10805 10808 1080a-10835 10837-10838 1083c 1083f"])
  | "Cypro_Minoan" =>
    some (String.join [
      "10100-10101 12f90-12ff2"])
  | "Cyrillic" =>
    some (String.join [
      "400-52f 1c80-1c88 1d2b 1d78 1df8 2de0-2dff 2e43 a640-a69f fe2e-fe2f 1e030-1e06d 1e08f"])
  | "Devanagari" =>
    some (String.join [
      "900-952 955-97f 1cd0-1cf6 1cf8-1cf9 20f0 a830-a839 a8e0-a8ff 11b00-11b09"])
  | "Dogra" =>
    some (String.join [
      "964-96f a830-a839 11800-1183b"])
  | "Duployan" =>
    some (String.join [
      "1bc00-1bc6a 1bc70-1bc7c 1bc80-1bc88 1bc90-1bc99 1bc9c-1bca3"])
  | "Georgian" =>
    some (String.join [
      "10a0-10c5 10c7 10cd 10d0-10ff 1c90-1cba 1cbd-1cbf 2d00-2d25 2d27 2d2d"])
  | "Glagolitic" =>
    some (String.join [
      "484 487 2c00-2c5f 2e43 a66f 1e000-1e006 1e008-1e018 1e01b-1e021 1e023-1e024 1e026-1e02a"])
  | "Grantha" =>
    some (String.join [
      "951-952 964-965 be6-bf3 1cd0 1cd2-1cd3 1cf2-1cf4 1cf8-1cf9 20f0 11300-11303 11305-1130c ",
      "1130f-11310 11313-11328 1132a-11330 11332-11333 11335-11339 1133b-11344 11347-11348 1134b-1134d ",
      "11350 11357 1135d-11363 11366-1136c 11370-11374 11fd0-11fd1 11fd3"])
  | "Greek" =>
    some (String.join [
      "342 345 370-373 375-377 37a-37d 37f 384 386 388-38a 38c 38e-3a1 3a3-3e1 3f0-3ff 1d26-1d2a ",
      "1d5d-1d61 1d66-1d6a 1dbf-1dc1 1f00-1f15 1f18-1f1d 1f20-1f45 1f48-1f4d 1f50-1f57 1f59 1f5b 1f5d ",
      "1f5f-1f7d 1f80-1fb4 1fb6-1fc4 1fc6-1fd3 1fd6-1fdb 1fdd-1fef 1ff2-1ff4 1ff6-1ffe 2126 ab65 ",
      "10140-1018e 101a0 1d200-1d245"])
  | "Gujarati" =>
    some (String.join [
      "951-952 964-965 a81-a83 a85-a8d a8f-a91 a93-aa8 aaa-ab0 ab2-ab3 ab5-ab9 abc-ac5 ac7-ac9 acb-acd ",
      "ad0 ae0-ae3 ae6-af1 af9-aff a830-a839"])
  | "Gunjala_Gondi" =>
    some (String.join [
      "964-965 11d60-11d65 11d67-11d68 11d6a-11d8e 11d90-11d91 11d93-11d98 11da0-11da9"])
  | "Gurmukhi" =>
    some (String.join [
      "951-952 964-965 a01-a03 a05-a0a a0f-a10 a13-a28 a2a-a30 a32-a33 a35-a36 a38-a39 a3c a3e-a42 ",
      "a47-a48 a4b-a4d a51 a59-a5c a5e a66-a76 a830-a839"])
  | "Han" =>
    some (String.join [
      "2e80-2e99 2e9b-2ef3 2f00-2fd5 3001-3003 3005-3011 3013-301f 3021-302d 3030 3037-303f 30fb ",
      "3190-319f 31c0-31e3 3220-3247 3280-32b0 32c0-32cb 32ff 3358-3370 337b-337f 33e0-33fe 3400-4dbf ",
      "4e00-9fff a700-a707 f900-fa6d fa70-fad9 fe45-fe46 ff61-ff65 16fe2-16fe3 16ff0-16ff1 1d360-1d371 ",
      "1f250-1f251 20000-2a6df 2a700-2b739 2b740-2b81d 2b820-2cea1 2ceb0-2ebe0 2f800-2fa1d 30000-3134a ",
      "31350-323af"])
  | "Hangul" =>
    some (String.join [
      "1100-11ff 3001-3003 3008-3011 3013-301f 302e-3030 3037 30fb 3131-318e 3200-321e 3260-327e ",
      "a960-a97c ac00-d7a3 d7b0-d7c6 d7cb-d7fb fe45-fe46 ff61-ff65 ffa0-ffbe ffc2-ffc7 ffca-ffcf ",
      "ffd2-ffd7 ffda-ffdc"])
  | "Hanifi_Rohingya" =>
    some (String.join [
      "60c 61b 61f 640 6d4 10d00-10d27 10d30-10d39"])
  | "Hanunoo" =>
    some (String.join [
      "1720-1736"])
  | "Hiragana" =>
    some (String.join [
      "3001-3003 3008-3011 3013-301f 3030-3035 3037 303c-303d 3041-3096 3099-30a0 30fb-30fc fe45-fe46 ",
      "ff61-ff65 ff70 ff9e-ff9f 1b001-1b11f 1b132 1b150-1b152 1f200"])
  | "Inherited" =>
    some (String.join [
      "300-341 343-344 346-362 953-954 1ab0-1ace 1dc2-1df7 1df9 1dfb-1dff 200c-200d 20d0-20ef fe00-fe0f ",
      "fe20-fe2d 101fd 1cf00-1cf2d 1cf30-1cf46 1d167-1d169 1d17b-1d182 1d185-1d18b 1d1aa-1d1ad ",
      "e0100-e01ef"])
  | "Javanese" =>
    some (String.join [
      "a980-a9cd a9cf-a9d9 a9de-a9df"])
  | "Kaithi" =>
    some (String.join [
      "966-96f a830-a839 11080-110c2 110cd"])
  | "Kannada" =>
    some (String.join [
      "951-952 964-965 c80-c8c c8e-c90 c92-ca8 caa-cb3 cb5-cb9 cbc-cc4 cc6-cc8 cca-ccd cd5-cd6 cdd-cde ",
      "ce0-ce3 ce6-cef cf1-cf3 1cd0 1cd2 1cda 1cf2 1cf4 a830-a835"])
  | "Katakana" =>
    some (String.join [
      "3001-3003 3008-3011 3013-301f 3030-3035 3037 303c-303d 3099-309c 30a0-30ff 31f0-31ff 32d0-32fe ",
      "3300-3357 fe45-fe46 ff61-ff9f 1aff0-1aff3 1aff5-1affb 1affd-1affe 1b000 1b120-1b122 1b155 ",
      "1b164-1b167"])
  | "Kayah_Li" =>
    some (String.join [
      "a900-a92f"])
  | "Khojki" =>
    some (String.join [
      "ae6-aef a830-a839 11200-11211 11213-11241"])
  | "Khudawadi" =>
    some (String.join [
      "964-965 a830-a839 112b0-112ea 112f0-112f9"])
  | "Latin" =>
    some (String.join [
      "41-5a 61-7a aa ba c0-d6 d8-f6 f8-2b8 2e0-2e4 363-36f 485-486 951-952 10fb 1d00-1d25 1d2c-1d5c ",
      "1d62-1d65 1d6b-1d77 1d79-1dbe 1e00-1eff 202f 2071 207f 2090-209c 20f0 212a-212b 2132 214e ",
      "2160-2188 2c60-2c7f a700-a707 a722-a787 a78b-a7ca a7d0-a7d1 a7d3 a7d5-a7d9 a7f2-a7ff a92e ",
      "ab30-ab5a ab5c-ab64 ab66-ab69 fb00-fb06 ff21-ff3a ff41-ff5a 10780-10785 10787-107b0 107b2-107ba ",
      "1df00-1df1e 1df25-1df2a"])
  | "Limbu" =>
    some (String.join [
      "965 1900-191e 1920-192b 1930-193b 1940 1944-194f"])
  | "Linear_A" =>
    some (String.join [
      "10107-10133 10600-10736 10740-10755 10760-10767"])
  | "Linear_B" =>
    some (String.join [
      "10000-1000b 1000d-10026 10028-1003a 1003c-1003d 1003f-1004d 10050-1005d 10080-100fa 10100-10102 ",
      "10107-10133 10137-1013f"])
  | "Mahajani" =>
    some (String.join [
      "964-96f a830-a839 11150-11176"])
  | "Malayalam" =>
    some (String.join [
      "951-952 964-965 d00-d0c d0e-d10 d12-d44 d46-d48 d4a-d4f d54-d63 d66-d7f 1cda a830-a832"])
  | "Mandaic" =>
    some (String.join [
      "640 840-85b 85e"])
  | "Manichaean" =>
    some (String.join [
      "640 10ac0-10ae6 10aeb-10af6"])
  | "Masaram_Gondi" =>
    some (String.join [
      "964-965 11d00-11d06 11d08-11d09 11d0b-11d36 11d3a 11d3c-11d3d 11d3f-11d47 11d50-11d59"])
  | "Modi" =>
    some (String.join [
      "a830-a839 11600-11644 11650-11659"])
  | "Mongolian" =>
    some (String.join [
      "1800-1819 1820-1878 1880-18aa 202f 11660-1166c"])
  | "Multani" =>
    some (String.join [
      "a66-a6f 11280-11286 11288 1128a-1128d 1128f-1129d 1129f-112a9"])
  | "Myanmar" =>
    some (String.join [
      "1000-109f a92e a9e0-a9fe aa60-aa7f"])
  | "Nandinagari" =>
    some (String.join [
      "964-965 ce6-cef 1ce9 1cf2 1cfa a830-a835 119a0-119a7 119aa-119d7 119da-119e4"])
  | "Nko" =>
    some (String.join [
      "60c 61b 61f 7c0-7fa 7fd-7ff fd3e-fd3f"])
  | "Old_Permic" =>
    some (String.join [
      "483 10350-1037a"])
  | "Old_Uyghur" =>
    some (String.join [
      "640 10af2 10f70-10f89"])
  | "Oriya" =>
    some (String.join [
      "951-952 964-965 b01-b03 b05-b0c b0f-b10 b13-b28 b2a-b30 b32-b33 b35-b39 b3c-b44 b47-b48 b4b-b4d ",
      "b55-b57 b5c-b5d b5f-b63 b66-b77 1cda 1cf2"])
  | "Phags_Pa" =>
    some (String.join [
      "1802-1803 1805 a840-a877"])
  | "Psalter_Pahlavi" =>
    some (String.join [
      "640 10b80-10b91 10b99-10b9c 10ba9-10baf"])
  | "Sharada" =>
    some (String.join [
      "951 1cd7 1cd9 1cdc-1cdd 1ce0 11180-111df"])
  | "Sinhala" =>
    some (String.join [
      "964-965 d81-d83 d85-d96 d9a-db1 db3-dbb dbd dc0-dc6 dca dcf-dd4 dd6 dd8-ddf de6-def df2-df4 ",
      "111e1-111f4"])
  | "Sogdian" =>
    some (String.join [
      "640 10f30-10f59"])
  | "Syloti_Nagri" =>
    some (String.join [
      "964-965 9e6-9ef a800-a82c"])
  | "Syriac" =>
    some (String.join [
      "60c 61b-61c 61f 640 64b-655 670 700-70d 70f-74a 74d-74f 860-86a 1df8 1dfa"])
  | "Tagalog" =>
    some (String.join [
      "1700-1715 171f 1735-1736"])
  | "Tagbanwa" =>
    some (String.join [
      "1735-1736 1760-176c 176e-1770 1772-1773"])
  | "Tai_Le" =>
    some (String.join [
      "1040-1049 1950-196d 1970-1974"])
  | "Takri" =>
    some (String.join [
      "964-965 a830-a839 11680-116b9 116c0-116c9"])
  | "Tamil" =>
    some (String.join [
      "951-952 964-965 b82-b83 b85-b8a b8e-b90 b92-b95 b99-b9a b9c b9e-b9f ba3-ba4 ba8-baa bae-bb9 ",
      "bbe-bc2 bc6-bc8 bca-bcd bd0 bd7 be6-bfa 1cda a8f3 11301 11303 1133b-1133c 11fc0-11ff1 11fff"])
  | "Telugu" =>
    some (String.join [
      "951-952 964-965 c00-c0c c0e-c10 c12-c28 c2a-c39 c3c-c44 c46-c48 c4a-c4d c55-c56 c58-c5a c5d ",
      "c60-c63 c66-c6f c77-c7f 1cda 1cf2"])
  | "Thaana" =>
    some (String.join [
      "60c 61b-61c 61f 660-669 780-7b1 fdf2 fdfd"])
  | "Tirhuta" =>
    some (String.join [
      "951-952 964-965 1cf2 a830-a839 11480-114c7 114d0-114d9"])
  | "Yezidi" =>
    some (String.join [
      "60c 61b 61f 660-669 10e80-10ea9 10eab-10ead 10eb0-10eb1"])
  | "Yi" =>
    some (String.join [
      "3001-3002 3008-3011 3014-301b 30fb a000-a48c a490-a4c6 ff61-ff65"])
  | _ => none

end SmartHelmet.Unicode
