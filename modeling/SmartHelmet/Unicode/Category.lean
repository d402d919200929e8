import SmartHelmet.Unicode.Table
/-!
# General categories

Every code point has a general category; the table lists each range of assigned code points
with its category (unassigned ones, `Cn`, are left out), numbered in the order of
`categoryNames`. Unicode 15.0.

Names of categories are matched loosely (case, spaces, `_` and `-` and an `is` prefix do not
count): `categoryAliases` takes each loose alias to the long name, and `categoryGroups` lists
the categories that make up the groups (`L`, `LC`, `M`, `N`, `P`, `S`, `Z`, `C`).
-/

namespace SmartHelmet.Unicode

/-- The long names of the categories, in the order the table numbers them. -/
def categoryNames : List String :=
  ["Unassigned", "Uppercase_Letter", "Lowercase_Letter", "Titlecase_Letter", "Modifier_Letter", "Other_Letter", "Nonspacing_Mark", "Spacing_Mark", "Enclosing_Mark", "Decimal_Number", "Letter_Number", "Other_Number", "Connector_Punctuation", "Dash_Punctuation", "Open_Punctuation", "Close_Punctuation", "Initial_Punctuation", "Final_Punctuation", "Other_Punctuation", "Math_Symbol", "Currency_Symbol", "Modifier_Symbol", "Other_Symbol", "Space_Separator", "Line_Separator", "Paragraph_Separator", "Control", "Format", "Surrogate", "Private_Use"]

/-- The categories of the assigned code points. -/
def categoryText : String :=
  String.join [
    "0-1f=26 20=23 21-23=18 24=20 25-27=18 28=14 29=15 2a=18 2b=19 2c=18 2d=13 2e-2f=18 30-39=9 ",
    "3a-3b=18 3c-3e=19 3f-40=18 41-5a=1 5b=14 5c=18 5d=15 5e=21 5f=12 60=21 61-7a=2 7b=14 7c=19 7d=15 ",
    "7e=19 7f-9f=26 a0=23 a1=18 a2-a5=20 a6=22 a7=18 a8=21 a9=22 aa=5 ab=16 ac=19 ad=27 ae=22 af=21 ",
    "b0=22 b1=19 b2-b3=11 b4=21 b5=2 b6-b7=18 b8=21 b9=11 ba=5 bb=17 bc-be=11 bf=18 c0-d6=1 d7=19 ",
    "d8-de=1 df-f6=2 f7=19 f8-ff=2 100=1 101=2 102=1 103=2 104=1 105=2 106=1 107=2 108=1 109=2 10a=1 ",
    "10b=2 10c=1 10d=2 10e=1 10f=2 110=1 111=2 112=1 113=2 114=1 115=2 116=1 117=2 118=1 119=2 11a=1 ",
    "11b=2 11c=1 11d=2 11e=1 11f=2 120=1 121=2 122=1 123=2 124=1 125=2 126=1 127=2 128=1 129=2 12a=1 ",
    "12b=2 12c=1 12d=2 12e=1 12f=2 130=1 131=2 132=1 133=2 134=1 135=2 136=1 137-138=2 139=1 13a=2 ",
    "13b=1 13c=2 13d=1 13e=2 13f=1 140=2 141=1 142=2 143=1 144=2 145=1 146=2 147=1 148-149=2 14a=1 ",
    "14b=2 14c=1 14d=2 14e=1 14f=2 150=1 151=2 152=1 153=2 154=1 155=2 156=1 157=2 158=1 159=2 15a=1 ",
    "15b=2 15c=1 15d=2 15e=1 15f=2 160=1 161=2 162=1 163=2 164=1 165=2 166=1 167=2 168=1 169=2 16a=1 ",
    "16b=2 16c=1 16d=2 16e=1 16f=2 170=1 171=2 172=1 173=2 174=1 175=2 176=1 177=2 178-179=1 17a=2 ",
    "17b=1 17c=2 17d=1 17e-180=2 181-182=1 183=2 184=1 185=2 186-187=1 188=2 189-18b=1 18c-18d=2 ",
    "18e-191=1 192=2 193-194=1 195=2 196-198=1 199-19b=2 19c-19d=1 19e=2 19f-1a0=1 1a1=2 1a2=1 1a3=2 ",
    "1a4=1 1a5=2 1a6-1a7=1 1a8=2 1a9=1 1aa-1ab=2 1ac=1 1ad=2 1ae-1af=1 1b0=2 1b1-1b3=1 1b4=2 1b5=1 ",
    "1b6=2 1b7-1b8=1 1b9-1ba=2 1bb=5 1bc=1 1bd-1bf=2 1c0-1c3=5 1c4=1 1c5=3 1c6=2 1c7=1 1c8=3 1c9=2 ",
    "1ca=1 1cb=3 1cc=2 1cd=1 1ce=2 1cf=1 1d0=2 1d1=1 1d2=2 1d3=1 1d4=2 1d5=1 1d6=2 1d7=1 1d8=2 1d9=1 ",
    "1da=2 1db=1 1dc-1dd=2 1de=1 1df=2 1e0=1 1e1=2 1e2=1 1e3=2 1e4=1 1e5=2 1e6=1 1e7=2 1e8=1 1e9=2 ",
    "1ea=1 1eb=2 1ec=1 1ed=2 1ee=1 1ef-1f0=2 1f1=1 1f2=3 1f3=2 1f4=1 1f5=2 1f6-1f8=1 1f9=2 1fa=1 ",
    "1fb=2 1fc=1 1fd=2 1fe=1 1ff=2 200=1 201=2 202=1 203=2 204=1 205=2 206=1 207=2 208=1 209=2 20a=1 ",
    "20b=2 20c=1 20d=2 20e=1 20f=2 210=1 211=2 212=1 213=2 214=1 215=2 216=1 217=2 218=1 219=2 21a=1 ",
    "21b=2 21c=1 21d=2 21e=1 21f=2 220=1 221=2 222=1 223=2 224=1 225=2 226=1 227=2 228=1 229=2 22a=1 ",
    "22b=2 22c=1 22d=2 22e=1 22f=2 230=1 231=2 232=1 233-239=2 23a-23b=1 23c=2 23d-23e=1 23f-240=2 ",
    "241=1 242=2 243-246=1 247=2 248=1 249=2 24a=1 24b=2 24c=1 24d=2 24e=1 24f-293=2 294=5 295-2af=2 ",
    "2b0-2c1=4 2c2-2c5=21 2c6-2d1=4 2d2-2df=21 2e0-2e4=4 2e5-2eb=21 2ec=4 2ed=21 2ee=4 2ef-2ff=21 ",
    "300-36f=6 370=1 371=2 372=1 373=2 374=4 375=21 376=1 377=2 37a=4 37b-37d=2 37e=18 37f=1 ",
    "384-385=21 386=1 387=18 388-38a=1 38c=1 38e-38f=1 390=2 391-3a1=1 3a3-3ab=1 3ac-3ce=2 3cf=1 ",
    "3d0-3d1=2 3d2-3d4=1 3d5-3d7=2 3d8=1 3d9=2 3da=1 3db=2 3dc=1 3dd=2 3de=1 3df=2 3e0=1 3e1=2 3e2=1 ",
    "3e3=2 3e4=1 3e5=2 3e6=1 3e7=2 3e8=1 3e9=2 3ea=1 3eb=2 3ec=1 3ed=2 3ee=1 3ef-3f3=2 3f4=1 3f5=2 ",
    "3f6=19 3f7=1 3f8=2 3f9-3fa=1 3fb-3fc=2 3fd-42f=1 430-45f=2 460=1 461=2 462=1 463=2 464=1 465=2 ",
    "466=1 467=2 468=1 469=2 46a=1 46b=2 46c=1 46d=2 46e=1 46f=2 470=1 471=2 472=1 473=2 474=1 475=2 ",
    "476=1 477=2 478=1 479=2 47a=1 47b=2 47c=1 47d=2 47e=1 47f=2 480=1 481=2 482=22 483-487=6 ",
    "488-489=8 48a=1 48b=2 48c=1 48d=2 48e=1 48f=2 490=1 491=2 492=1 493=2 494=1 495=2 496=1 497=2 ",
    "498=1 499=2 49a=1 49b=2 49c=1 49d=2 49e=1 49f=2 4a0=1 4a1=2 4a2=1 4a3=2 4a4=1 4a5=2 4a6=1 4a7=2 ",
    "4a8=1 4a9=2 4aa=1 4ab=2 4ac=1 4ad=2 4ae=1 4af=2 4b0=1 4b1=2 4b2=1 4b3=2 4b4=1 4b5=2 4b6=1 4b7=2 ",
    "4b8=1 4b9=2 4ba=1 4bb=2 4bc=1 4bd=2 4be=1 4bf=2 4c0-4c1=1 4c2=2 4c3=1 4c4=2 4c5=1 4c6=2 4c7=1 ",
    "4c8=2 4c9=1 4ca=2 4cb=1 4cc=2 4cd=1 4ce-4cf=2 4d0=1 4d1=2 4d2=1 4d3=2 4d4=1 4d5=2 4d6=1 4d7=2 ",
    "4d8=1 4d9=2 4da=1 4db=2 4dc=1 4dd=2 4de=1 4df=2 4e0=1 4e1=2 4e2=1 4e3=2 4e4=1 4e5=2 4e6=1 4e7=2 ",
    "4e8=1 4e9=2 4ea=1 4eb=2 4ec=1 4ed=2 4ee=1 4ef=2 4f0=1 4f1=2 4f2=1 4f3=2 4f4=1 4f5=2 4f6=1 4f7=2 ",
    "4f8=1 4f9=2 4fa=1 4fb=2 4fc=1 4fd=2 4fe=1 4ff=2 500=1 501=2 502=1 503=2 504=1 505=2 506=1 507=2 ",
    "508=1 509=2 50a=1 50b=2 50c=1 50d=2 50e=1 50f=2 510=1 511=2 512=1 513=2 514=1 515=2 516=1 517=2 ",
    "518=1 519=2 51a=1 51b=2 51c=1 51d=2 51e=1 51f=2 520=1 521=2 522=1 523=2 524=1 525=2 526=1 527=2 ",
    "528=1 529=2 52a=1 52b=2 52c=1 52d=2 52e=1 52f=2 531-556=1 559=4 55a-55f=18 560-588=2 589=18 ",
    "58a=13 58d-58e=22 58f=20 591-5bd=6 5be=13 5bf=6 5c0=18 5c1-5c2=6 5c3=18 5c4-5c5=6 5c6=18 5c7=6 ",
    "5d0-5ea=5 5ef-5f2=5 5f3-5f4=18 600-605=27 606-608=19 609-60a=18 60b=20 60c-60d=18 60e-60f=22 ",
    "610-61a=6 61b=18 61c=27 61d-61f=18 620-63f=5 640=4 641-64a=5 64b-65f=6 660-669=9 66a-66d=18 ",
    "66e-66f=5 670=6 671-6d3=5 6d4=18 6d5=5 6d6-6dc=6 6dd=27 6de=22 6df-6e4=6 6e5-6e6=4 6e7-6e8=6 ",
    "6e9=22 6ea-6ed=6 6ee-6ef=5 6f0-6f9=9 6fa-6fc=5 6fd-6fe=22 6ff=5 700-70d=18 70f=27 710=5 711=6 ",
    "712-72f=5 730-74a=6 74d-7a5=5 7a6-7b0=6 7b1=5 7c0-7c9=9 7ca-7ea=5 7eb-7f3=6 7f4-7f5=4 7f6=22 ",
    "7f7-7f9=18 7fa=4 7fd=6 7fe-7ff=20 800-815=5 816-819=6 81a=4 81b-823=6 824=4 825-827=6 828=4 ",
    "829-82d=6 830-83e=18 840-858=5 859-85b=6 85e=18 860-86a=5 870-887=5 888=21 889-88e=5 890-891=27 ",
    "898-89f=6 8a0-8c8=5 8c9=4 8ca-8e1=6 8e2=27 8e3-902=6 903=7 904-939=5 93a=6 93b=7 93c=6 93d=5 ",
    "93e-940=7 941-948=6 949-94c=7 94d=6 94e-94f=7 950=5 951-957=6 958-961=5 962-963=6 964-965=18 ",
    "966-96f=9 970=18 971=4 972-980=5 981=6 982-983=7 985-98c=5 98f-990=5 993-9a8=5 9aa-9b0=5 9b2=5 ",
    "9b6-9b9=5 9bc=6 9bd=5 9be-9c0=7 9c1-9c4=6 9c7-9c8=7 9cb-9cc=7 9cd=6 9ce=5 9d7=7 9dc-9dd=5 ",
    "9df-9e1=5 9e2-9e3=6 9e6-9ef=9 9f0-9f1=5 9f2-9f3=20 9f4-9f9=11 9fa=22 9fb=20 9fc=5 9fd=18 9fe=6 ",
    "a01-a02=6 a03=7 a05-a0a=5 a0f-a10=5 a13-a28=5 a2a-a30=5 a32-a33=5 a35-a36=5 a38-a39=5 a3c=6 ",
    "a3e-a40=7 a41-a42=6 a47-a48=6 a4b-a4d=6 a51=6 a59-a5c=5 a5e=5 a66-a6f=9 a70-a71=6 a72-a74=5 ",
    "a75=6 a76=18 a81-a82=6 a83=7 a85-a8d=5 a8f-a91=5 a93-aa8=5 aaa-ab0=5 ab2-ab3=5 ab5-ab9=5 abc=6 ",
    "abd=5 abe-ac0=7 ac1-ac5=6 ac7-ac8=6 ac9=7 acb-acc=7 acd=6 ad0=5 ae0-ae1=5 ae2-ae3=6 ae6-aef=9 ",
    "af0=18 af1=20 af9=5 afa-aff=6 b01=6 b02-b03=7 b05-b0c=5 b0f-b10=5 b13-b28=5 b2a-b30=5 b32-b33=5 ",
    "b35-b39=5 b3c=6 b3d=5 b3e=7 b3f=6 b40=7 b41-b44=6 b47-b48=7 b4b-b4c=7 b4d=6 b55-b56=6 b57=7 ",
    "b5c-b5d=5 b5f-b61=5 b62-b63=6 b66-b6f=9 b70=22 b71=5 b72-b77=11 b82=6 b83=5 b85-b8a=5 b8e-b90=5 ",
    "b92-b95=5 b99-b9a=5 b9c=5 b9e-b9f=5 ba3-ba4=5 ba8-baa=5 bae-bb9=5 bbe-bbf=7 bc0=6 bc1-bc2=7 ",
    "bc6-bc8=7 bca-bcc=7 bcd=6 bd0=5 bd7=7 be6-bef=9 bf0-bf2=11 bf3-bf8=22 bf9=20 bfa=22 c00=6 ",
    "c01-c03=7 c04=6 c05-c0c=5 c0e-c10=5 c12-c28=5 c2a-c39=5 c3c=6 c3d=5 c3e-c40=6 c41-c44=7 ",
    "c46-c48=6 c4a-c4d=6 c55-c56=6 c58-c5a=5 c5d=5 c60-c61=5 c62-c63=6 c66-c6f=9 c77=18 c78-c7e=11 ",
    "c7f=22 c80=5 c81=6 c82-c83=7 c84=18 c85-c8c=5 c8e-c90=5 c92-ca8=5 caa-cb3=5 cb5-cb9=5 cbc=6 ",
    "cbd=5 cbe=7 cbf=6 cc0-cc4=7 cc6=6 cc7-cc8=7 cca-ccb=7 ccc-ccd=6 cd5-cd6=7 cdd-cde=5 ce0-ce1=5 ",
    "ce2-ce3=6 ce6-cef=9 cf1-cf2=5 cf3=7 d00-d01=6 d02-d03=7 d04-d0c=5 d0e-d10=5 d12-d3a=5 d3b-d3c=6 ",
    "d3d=5 d3e-d40=7 d41-d44=6 d46-d48=7 d4a-d4c=7 d4d=6 d4e=5 d4f=22 d54-d56=5 d57=7 d58-d5e=11 ",
    "d5f-d61=5 d62-d63=6 d66-d6f=9 d70-d78=11 d79=22 d7a-d7f=5 d81=6 d82-d83=7 d85-d96=5 d9a-db1=5 ",
    "db3-dbb=5 dbd=5 dc0-dc6=5 dca=6 dcf-dd1=7 dd2-dd4=6 dd6=6 dd8-ddf=7 de6-def=9 df2-df3=7 df4=18 ",
    "e01-e30=5 e31=6 e32-e33=5 e34-e3a=6 e3f=20 e40-e45=5 e46=4 e47-e4e=6 e4f=18 e50-e59=9 e5a-e5b=18 ",
    "e81-e82=5 e84=5 e86-e8a=5 e8c-ea3=5 ea5=5 ea7-eb0=5 eb1=6 eb2-eb3=5 eb4-ebc=6 ebd=5 ec0-ec4=5 ",
    "ec6=4 ec8-ece=6 ed0-ed9=9 edc-edf=5 f00=5 f01-f03=22 f04-f12=18 f13=22 f14=18 f15-f17=22 ",
    "f18-f19=6 f1a-f1f=22 f20-f29=9 f2a-f33=11 f34=22 f35=6 f36=22 f37=6 f38=22 f39=6 f3a=14 f3b=15 ",
    "f3c=14 f3d=15 f3e-f3f=7 f40-f47=5 f49-f6c=5 f71-f7e=6 f7f=7 f80-f84=6 f85=18 f86-f87=6 f88-f8c=5 ",
    "f8d-f97=6 f99-fbc=6 fbe-fc5=22 fc6=6 fc7-fcc=22 fce-fcf=22 fd0-fd4=18 fd5-fd8=22 fd9-fda=18 ",
    "1000-102a=5 102b-102c=7 102d-1030=6 1031=7 1032-1037=6 1038=7 1039-103a=6 103b-103c=7 ",
    "103d-103e=6 103f=5 1040-1049=9 104a-104f=18 1050-1055=5 1056-1057=7 1058-1059=6 105a-105d=5 ",
    "105e-1060=6 1061=5 1062-1064=7 1065-1066=5 1067-106d=7 106e-1070=5 1071-1074=6 1075-1081=5 ",
    "1082=6 1083-1084=7 1085-1086=6 1087-108c=7 108d=6 108e=5 108f=7 1090-1099=9 109a-109c=7 109d=6 ",
    "109e-109f=22 10a0-10c5=1 10c7=1 10cd=1 10d0-10fa=2 10fb=18 10fc=4 10fd-10ff=2 1100-1248=5 ",
    "124a-124d=5 1250-1256=5 1258=5 125a-125d=5 1260-1288=5 128a-128d=5 1290-12b0=5 12b2-12b5=5 ",
    "12b8-12be=5 12c0=5 12c2-12c5=5 12c8-12d6=5 12d8-1310=5 1312-1315=5 1318-135a=5 135d-135f=6 ",
    "1360-1368=18 1369-137c=11 1380-138f=5 1390-1399=22 13a0-13f5=1 13f8-13fd=2 1400=13 1401-166c=5 ",
    "166d=22 166e=18 166f-167f=5 1680=23 1681-169a=5 169b=14 169c=15 16a0-16ea=5 16eb-16ed=18 ",
    "16ee-16f0=10 16f1-16f8=5 1700-1711=5 1712-1714=6 1715=7 171f-1731=5 1732-1733=6 1734=7 ",
    "1735-1736=18 1740-1751=5 1752-1753=6 1760-176c=5 176e-1770=5 1772-1773=6 1780-17b3=5 17b4-17b5=6 ",
    "17b6=7 17b7-17bd=6 17be-17c5=7 17c6=6 17c7-17c8=7 17c9-17d3=6 17d4-17d6=18 17d7=4 17d8-17da=18 ",
    "17db=20 17dc=5 17dd=6 17e0-17e9=9 17f0-17f9=11 1800-1805=18 1806=13 1807-180a=18 180b-180d=6 ",
    "180e=27 180f=6 1810-1819=9 1820-1842=5 1843=4 1844-1878=5 1880-1884=5 1885-1886=6 1887-18a8=5 ",
    "18a9=6 18aa=5 18b0-18f5=5 1900-191e=5 1920-1922=6 1923-1926=7 1927-1928=6 1929-192b=7 ",
    "1930-1931=7 1932=6 1933-1938=7 1939-193b=6 1940=22 1944-1945=18 1946-194f=9 1950-196d=5 ",
    "1970-1974=5 1980-19ab=5 19b0-19c9=5 19d0-19d9=9 19da=11 19de-19ff=22 1a00-1a16=5 1a17-1a18=6 ",
    "1a19-1a1a=7 1a1b=6 1a1e-1a1f=18 1a20-1a54=5 1a55=7 1a56=6 1a57=7 1a58-1a5e=6 1a60=6 1a61=7 ",
    "1a62=6 1a63-1a64=7 1a65-1a6c=6 1a6d-1a72=7 1a73-1a7c=6 1a7f=6 1a80-1a89=9 1a90-1a99=9 ",
    "1aa0-1aa6=18 1aa7=4 1aa8-1aad=18 1ab0-1abd=6 1abe=8 1abf-1ace=6 1b00-1b03=6 1b04=7 1b05-1b33=5 ",
    "1b34=6 1b35=7 1b36-1b3a=6 1b3b=7 1b3c=6 1b3d-1b41=7 1b42=6 1b43-1b44=7 1b45-1b4c=5 1b50-1b59=9 ",
    "1b5a-1b60=18 1b61-1b6a=22 1b6b-1b73=6 1b74-1b7c=22 1b7d-1b7e=18 1b80-1b81=6 1b82=7 1b83-1ba0=5 ",
    "1ba1=7 1ba2-1ba5=6 1ba6-1ba7=7 1ba8-1ba9=6 1baa=7 1bab-1bad=6 1bae-1baf=5 1bb0-1bb9=9 ",
    "1bba-1be5=5 1be6=6 1be7=7 1be8-1be9=6 1bea-1bec=7 1bed=6 1bee=7 1bef-1bf1=6 1bf2-1bf3=7 ",
    "1bfc-1bff=18 1c00-1c23=5 1c24-1c2b=7 1c2c-1c33=6 1c34-1c35=7 1c36-1c37=6 1c3b-1c3f=18 ",
    "1c40-1c49=9 1c4d-1c4f=5 1c50-1c59=9 1c5a-1c77=5 1c78-1c7d=4 1c7e-1c7f=18 1c80-1c88=2 1c90-1cba=1 ",
    "1cbd-1cbf=1 1cc0-1cc7=18 1cd0-1cd2=6 1cd3=18 1cd4-1ce0=6 1ce1=7 1ce2-1ce8=6 1ce9-1cec=5 1ced=6 ",
    "1cee-1cf3=5 1cf4=6 1cf5-1cf6=5 1cf7=7 1cf8-1cf9=6 1cfa=5 1d00-1d2b=2 1d2c-1d6a=4 1d6b-1d77=2 ",
    "1d78=4 1d79-1d9a=2 1d9b-1dbf=4 1dc0-1dff=6 1e00=1 1e01=2 1e02=1 1e03=2 1e04=1 1e05=2 1e06=1 ",
    "1e07=2 1e08=1 1e09=2 1e0a=1 1e0b=2 1e0c=1 1e0d=2 1e0e=1 1e0f=2 1e10=1 1e11=2 1e12=1 1e13=2 ",
    "1e14=1 1e15=2 1e16=1 1e17=2 1e18=1 1e19=2 1e1a=1 1e1b=2 1e1c=1 1e1d=2 1e1e=1 1e1f=2 1e20=1 ",
    "1e21=2 1e22=1 1e23=2 1e24=1 1e25=2 1e26=1 1e27=2 1e28=1 1e29=2 1e2a=1 1e2b=2 1e2c=1 1e2d=2 ",
    "1e2e=1 1e2f=2 1e30=1 1e31=2 1e32=1 1e33=2 1e34=1 1e35=2 1e36=1 1e37=2 1e38=1 1e39=2 1e3a=1 ",
    "1e3b=2 1e3c=1 1e3d=2 1e3e=1 1e3f=2 1e40=1 1e41=2 1e42=1 1e43=2 1e44=1 1e45=2 1e46=1 1e47=2 ",
    "1e48=1 1e49=2 1e4a=1 1e4b=2 1e4c=1 1e4d=2 1e4e=1 1e4f=2 1e50=1 1e51=2 1e52=1 1e53=2 1e54=1 ",
    "1e55=2 1e56=1 1e57=2 1e58=1 1e59=2 1e5a=1 1e5b=2 1e5c=1 1e5d=2 1e5e=1 1e5f=2 1e60=1 1e61=2 ",
    "1e62=1 1e63=2 1e64=1 1e65=2 1e66=1 1e67=2 1e68=1 1e69=2 1e6a=1 1e6b=2 1e6c=1 1e6d=2 1e6e=1 ",
    "1e6f=2 1e70=1 1e71=2 1e72=1 1e73=2 1e74=1 1e75=2 1e76=1 1e77=2 1e78=1 1e79=2 1e7a=1 1e7b=2 ",
    "1e7c=1 1e7d=2 1e7e=1 1e7f=2 1e80=1 1e81=2 1e82=1 1e83=2 1e84=1 1e85=2 1e86=1 1e87=2 1e88=1 ",
    "1e89=2 1e8a=1 1e8b=2 1e8c=1 1e8d=2 1e8e=1 1e8f=2 1e90=1 1e91=2 1e92=1 1e93=2 1e94=1 1e95-1e9d=2 ",
    "1e9e=1 1e9f=2 1ea0=1 1ea1=2 1ea2=1 1ea3=2 1ea4=1 1ea5=2 1ea6=1 1ea7=2 1ea8=1 1ea9=2 1eaa=1 ",
    "1eab=2 1eac=1 1ead=2 1eae=1 1eaf=2 1eb0=1 1eb1=2 1eb2=1 1eb3=2 1eb4=1 1eb5=2 1eb6=1 1eb7=2 ",
    "1eb8=1 1eb9=2 1eba=1 1ebb=2 1ebc=1 1ebd=2 1ebe=1 1ebf=2 1ec0=1 1ec1=2 1ec2=1 1ec3=2 1ec4=1 ",
    "1ec5=2 1ec6=1 1ec7=2 1ec8=1 1ec9=2 1eca=1 1ecb=2 1ecc=1 1ecd=2 1ece=1 1ecf=2 1ed0=1 1ed1=2 ",
    "1ed2=1 1ed3=2 1ed4=1 1ed5=2 1ed6=1 1ed7=2 1ed8=1 1ed9=2 1eda=1 1edb=2 1edc=1 1edd=2 1ede=1 ",
    "1edf=2 1ee0=1 1ee1=2 1ee2=1 1ee3=2 1ee4=1 1ee5=2 1ee6=1 1ee7=2 1ee8=1 1ee9=2 1eea=1 1eeb=2 ",
    "1eec=1 1eed=2 1eee=1 1eef=2 1ef0=1 1ef1=2 1ef2=1 1ef3=2 1ef4=1 1ef5=2 1ef6=1 1ef7=2 1ef8=1 ",
    "1ef9=2 1efa=1 1efb=2 1efc=1 1efd=2 1efe=1 1eff-1f07=2 1f08-1f0f=1 1f10-1f15=2 1f18-1f1d=1 ",
    "1f20-1f27=2 1f28-1f2f=1 1f30-1f37=2 1f38-1f3f=1 1f40-1f45=2 1f48-1f4d=1 1f50-1f57=2 1f59=1 ",
    "1f5b=1 1f5d=1 1f5f=1 1f60-1f67=2 1f68-1f6f=1 1f70-1f7d=2 1f80-1f87=2 1f88-1f8f=3 1f90-1f97=2 ",
    "1f98-1f9f=3 1fa0-1fa7=2 1fa8-1faf=3 1fb0-1fb4=2 1fb6-1fb7=2 1fb8-1fbb=1 1fbc=3 1fbd=21 1fbe=2 ",
    "1fbf-1fc1=21 1fc2-1fc4=2 1fc6-1fc7=2 1fc8-1fcb=1 1fcc=3 1fcd-1fcf=21 1fd0-1fd3=2 1fd6-1fd7=2 ",
    "1fd8-1fdb=1 1fdd-1fdf=21 1fe0-1fe7=2 1fe8-1fec=1 1fed-1fef=21 1ff2-1ff4=2 1ff6-1ff7=2 ",
    "1ff8-1ffb=1 1ffc=3 1ffd-1ffe=21 2000-200a=23 200b-200f=27 2010-2015=13 2016-2017=18 2018=16 ",
    "2019=17 201a=14 201b-201c=16 201d=17 201e=14 201f=16 2020-2027=18 2028=24 2029=25 202a-202e=27 ",
    "202f=23 2030-2038=18 2039=16 203a=17 203b-203e=18 203f-2040=12 2041-2043=18 2044=19 2045=14 ",
    "2046=15 2047-2051=18 2052=19 2053=18 2054=12 2055-205e=18 205f=23 2060-2064=27 2066-206f=27 ",
    "2070=11 2071=4 2074-2079=11 207a-207c=19 207d=14 207e=15 207f=4 2080-2089=11 208a-208c=19 ",
    "208d=14 208e=15 2090-209c=4 20a0-20c0=20 20d0-20dc=6 20dd-20e0=8 20e1=6 20e2-20e4=8 20e5-20f0=6 ",
    "2100-2101=22 2102=1 2103-2106=22 2107=1 2108-2109=22 210a=2 210b-210d=1 210e-210f=2 2110-2112=1 ",
    "2113=2 2114=22 2115=1 2116-2117=22 2118=19 2119-211d=1 211e-2123=22 2124=1 2125=22 2126=1 ",
    "2127=22 2128=1 2129=22 212a-212d=1 212e=22 212f=2 2130-2133=1 2134=2 2135-2138=5 2139=2 ",
    "213a-213b=22 213c-213d=2 213e-213f=1 2140-2144=19 2145=1 2146-2149=2 214a=22 214b=19 ",
    "214c-214d=22 214e=2 214f=22 2150-215f=11 2160-2182=10 2183=1 2184=2 2185-2188=10 2189=11 ",
    "218a-218b=22 2190-2194=19 2195-2199=22 219a-219b=19 219c-219f=22 21a0=19 21a1-21a2=22 21a3=19 ",
    "21a4-21a5=22 21a6=19 21a7-21ad=22 21ae=19 21af-21cd=22 21ce-21cf=19 21d0-21d1=22 21d2=19 21d3=22 ",
    "21d4=19 21d5-21f3=22 21f4-22ff=19 2300-2307=22 2308=14 2309=15 230a=14 230b=15 230c-231f=22 ",
    "2320-2321=19 2322-2328=22 2329=14 232a=15 232b-237b=22 237c=19 237d-239a=22 239b-23b3=19 ",
    "23b4-23db=22 23dc-23e1=19 23e2-2426=22 2440-244a=22 2460-249b=11 249c-24e9=22 24ea-24ff=11 ",
    "2500-25b6=22 25b7=19 25b8-25c0=22 25c1=19 25c2-25f7=22 25f8-25ff=19 2600-266e=22 266f=19 ",
    "2670-2767=22 2768=14 2769=15 276a=14 276b=15 276c=14 276d=15 276e=14 276f=15 2770=14 2771=15 ",
    "2772=14 2773=15 2774=14 2775=15 2776-2793=11 2794-27bf=22 27c0-27c4=19 27c5=14 27c6=15 ",
    "27c7-27e5=19 27e6=14 27e7=15 27e8=14 27e9=15 27ea=14 27eb=15 27ec=14 27ed=15 27ee=14 27ef=15 ",
    "27f0-27ff=19 2800-28ff=22 2900-2982=19 2983=14 2984=15 2985=14 2986=15 2987=14 2988=15 2989=14 ",
    "298a=15 298b=14 298c=15 298d=14 298e=15 298f=14 2990=15 2991=14 2992=15 2993=14 2994=15 2995=14 ",
    "2996=15 2997=14 2998=15 2999-29d7=19 29d8=14 29d9=15 29da=14 29db=15 29dc-29fb=19 29fc=14 ",
    "29fd=15 29fe-2aff=19 2b00-2b2f=22 2b30-2b44=19 2b45-2b46=22 2b47-2b4c=19 2b4d-2b73=22 ",
    "2b76-2b95=22 2b97-2bff=22 2c00-2c2f=1 2c30-2c5f=2 2c60=1 2c61=2 2c62-2c64=1 2c65-2c66=2 2c67=1 ",
    "2c68=2 2c69=1 2c6a=2 2c6b=1 2c6c=2 2c6d-2c70=1 2c71=2 2c72=1 2c73-2c74=2 2c75=1 2c76-2c7b=2 ",
    "2c7c-2c7d=4 2c7e-2c80=1 2c81=2 2c82=1 2c83=2 2c84=1 2c85=2 2c86=1 2c87=2 2c88=1 2c89=2 2c8a=1 ",
    "2c8b=2 2c8c=1 2c8d=2 2c8e=1 2c8f=2 2c90=1 2c91=2 2c92=1 2c93=2 2c94=1 2c95=2 2c96=1 2c97=2 ",
    "2c98=1 2c99=2 2c9a=1 2c9b=2 2c9c=1 2c9d=2 2c9e=1 2c9f=2 2ca0=1 2ca1=2 2ca2=1 2ca3=2 2ca4=1 ",
    "2ca5=2 2ca6=1 2ca7=2 2ca8=1 2ca9=2 2caa=1 2cab=2 2cac=1 2cad=2 2cae=1 2caf=2 2cb0=1 2cb1=2 ",
    "2cb2=1 2cb3=2 2cb4=1 2cb5=2 2cb6=1 2cb7=2 2cb8=1 2cb9=2 2cba=1 2cbb=2 2cbc=1 2cbd=2 2cbe=1 ",
    "2cbf=2 2cc0=1 2cc1=2 2cc2=1 2cc3=2 2cc4=1 2cc5=2 2cc6=1 2cc7=2 2cc8=1 2cc9=2 2cca=1 2ccb=2 ",
    "2ccc=1 2ccd=2 2cce=1 2ccf=2 2cd0=1 2cd1=2 2cd2=1 2cd3=2 2cd4=1 2cd5=2 2cd6=1 2cd7=2 2cd8=1 ",
    "2cd9=2 2cda=1 2cdb=2 2cdc=1 2cdd=2 2cde=1 2cdf=2 2ce0=1 2ce1=2 2ce2=1 2ce3-2ce4=2 2ce5-2cea=22 ",
    "2ceb=1 2cec=2 2ced=1 2cee=2 2cef-2cf1=6 2cf2=1 2cf3=2 2cf9-2cfc=18 2cfd=11 2cfe-2cff=18 ",
    "2d00-2d25=2 2d27=2 2d2d=2 2d30-2d67=5 2d6f=4 2d70=18 2d7f=6 2d80-2d96=5 2da0-2da6=5 2da8-2dae=5 ",
    "2db0-2db6=5 2db8-2dbe=5 2dc0-2dc6=5 2dc8-2dce=5 2dd0-2dd6=5 2dd8-2dde=5 2de0-2dff=6 2e00-2e01=18 ",
    "2e02=16 2e03=17 2e04=16 2e05=17 2e06-2e08=18 2e09=16 2e0a=17 2e0b=18 2e0c=16 2e0d=17 ",
    "2e0e-2e16=18 2e17=13 2e18-2e19=18 2e1a=13 2e1b=18 2e1c=16 2e1d=17 2e1e-2e1f=18 2e20=16 2e21=17 ",
    "2e22=14 2e23=15 2e24=14 2e25=15 2e26=14 2e27=15 2e28=14 2e29=15 2e2a-2e2e=18 2e2f=4 2e30-2e39=18 ",
    "2e3a-2e3b=13 2e3c-2e3f=18 2e40=13 2e41=18 2e42=14 2e43-2e4f=18 2e50-2e51=22 2e52-2e54=18 2e55=14 ",
    "2e56=15 2e57=14 2e58=15 2e59=14 2e5a=15 2e5b=14 2e5c=15 2e5d=13 2e80-2e99=22 2e9b-2ef3=22 ",
    "2f00-2fd5=22 2ff0-2ffb=22 3000=23 3001-3003=18 3004=22 3005=4 3006=5 3007=10 3008=14 3009=15 ",
    "300a=14 300b=15 300c=14 300d=15 300e=14 300f=15 3010=14 3011=15 3012-3013=22 3014=14 3015=15 ",
    "3016=14 3017=15 3018=14 3019=15 301a=14 301b=15 301c=13 301d=14 301e-301f=15 3020=22 ",
    "3021-3029=10 302a-302d=6 302e-302f=7 3030=13 3031-3035=4 3036-3037=22 3038-303a=10 303b=4 303c=5 ",
    "303d=18 303e-303f=22 3041-3096=5 3099-309a=6 309b-309c=21 309d-309e=4 309f=5 30a0=13 30a1-30fa=5 ",
    "30fb=18 30fc-30fe=4 30ff=5 3105-312f=5 3131-318e=5 3190-3191=22 3192-3195=11 3196-319f=22 ",
    "31a0-31bf=5 31c0-31e3=22 31f0-31ff=5 3200-321e=22 3220-3229=11 322a-3247=22 3248-324f=11 3250=22 ",
    "3251-325f=11 3260-327f=22 3280-3289=11 328a-32b0=22 32b1-32bf=11 32c0-33ff=22 3400-4dbf=5 ",
    "4dc0-4dff=22 4e00-a014=5 a015=4 a016-a48c=5 a490-a4c6=22 a4d0-a4f7=5 a4f8-a4fd=4 a4fe-a4ff=18 ",
    "a500-a60b=5 a60c=4 a60d-a60f=18 a610-a61f=5 a620-a629=9 a62a-a62b=5 a640=1 a641=2 a642=1 a643=2 ",
    "a644=1 a645=2 a646=1 a647=2 a648=1 a649=2 a64a=1 a64b=2 a64c=1 a64d=2 a64e=1 a64f=2 a650=1 ",
    "a651=2 a652=1 a653=2 a654=1 a655=2 a656=1 a657=2 a658=1 a659=2 a65a=1 a65b=2 a65c=1 a65d=2 ",
    "a65e=1 a65f=2 a660=1 a661=2 a662=1 a663=2 a664=1 a665=2 a666=1 a667=2 a668=1 a669=2 a66a=1 ",
    "a66b=2 a66c=1 a66d=2 a66e=5 a66f=6 a670-a672=8 a673=18 a674-a67d=6 a67e=18 a67f=4 a680=1 a681=2 ",
    "a682=1 a683=2 a684=1 a685=2 a686=1 a687=2 a688=1 a689=2 a68a=1 a68b=2 a68c=1 a68d=2 a68e=1 ",
    "a68f=2 a690=1 a691=2 a692=1 a693=2 a694=1 a695=2 a696=1 a697=2 a698=1 a699=2 a69a=1 a69b=2 ",
    "a69c-a69d=4 a69e-a69f=6 a6a0-a6e5=5 a6e6-a6ef=10 a6f0-a6f1=6 a6f2-a6f7=18 a700-a716=21 ",
    "a717-a71f=4 a720-a721=21 a722=1 a723=2 a724=1 a725=2 a726=1 a727=2 a728=1 a729=2 a72a=1 a72b=2 ",
    "a72c=1 a72d=2 a72e=1 a72f-a731=2 a732=1 a733=2 a734=1 a735=2 a736=1 a737=2 a738=1 a739=2 a73a=1 ",
    "a73b=2 a73c=1 a73d=2 a73e=1 a73f=2 a740=1 a741=2 a742=1 a743=2 a744=1 a745=2 a746=1 a747=2 ",
    "a748=1 a749=2 a74a=1 a74b=2 a74c=1 a74d=2 a74e=1 a74f=2 a750=1 a751=2 a752=1 a753=2 a754=1 ",
    "a755=2 a756=1 a757=2 a758=1 a759=2 a75a=1 a75b=2 a75c=1 a75d=2 a75e=1 a75f=2 a760=1 a761=2 ",
    "a762=1 a763=2 a764=1 a765=2 a766=1 a767=2 a768=1 a769=2 a76a=1 a76b=2 a76c=1 a76d=2 a76e=1 ",
    "a76f=2 a770=4 a771-a778=2 a779=1 a77a=2 a77b=1 a77c=2 a77d-a77e=1 a77f=2 a780=1 a781=2 a782=1 ",
    "a783=2 a784=1 a785=2 a786=1 a787=2 a788=4 a789-a78a=21 a78b=1 a78c=2 a78d=1 a78e=2 a78f=5 a790=1 ",
    "a791=2 a792=1 a793-a795=2 a796=1 a797=2 a798=1 a799=2 a79a=1 a79b=2 a79c=1 a79d=2 a79e=1 a79f=2 ",
    "a7a0=1 a7a1=2 a7a2=1 a7a3=2 a7a4=1 a7a5=2 a7a6=1 a7a7=2 a7a8=1 a7a9=2 a7aa-a7ae=1 a7af=2 ",
    "a7b0-a7b4=1 a7b5=2 a7b6=1 a7b7=2 a7b8=1 a7b9=2 a7ba=1 a7bb=2 a7bc=1 a7bd=2 a7be=1 a7bf=2 a7c0=1 ",
    "a7c1=2 a7c2=1 a7c3=2 a7c4-a7c7=1 a7c8=2 a7c9=1 a7ca=2 a7d0=1 a7d1=2 a7d3=2 a7d5=2 a7d6=1 a7d7=2 ",
    "a7d8=1 a7d9=2 a7f2-a7f4=4 a7f5=1 a7f6=2 a7f7=5 a7f8-a7f9=4 a7fa=2 a7fb-a801=5 a802=6 a803-a805=5 ",
    "a806=6 a807-a80a=5 a80b=6 a80c-a822=5 a823-a824=7 a825-a826=6 a827=7 a828-a82b=22 a82c=6 ",
    "a830-a835=11 a836-a837=22 a838=20 a839=22 a840-a873=5 a874-a877=18 a880-a881=7 a882-a8b3=5 ",
    "a8b4-a8c3=7 a8c4-a8c5=6 a8ce-a8cf=18 a8d0-a8d9=9 a8e0-a8f1=6 a8f2-a8f7=5 a8f8-a8fa=18 a8fb=5 ",
    "a8fc=18 a8fd-a8fe=5 a8ff=6 a900-a909=9 a90a-a925=5 a926-a92d=6 a92e-a92f=18 a930-a946=5 ",
    "a947-a951=6 a952-a953=7 a95f=18 a960-a97c=5 a980-a982=6 a983=7 a984-a9b2=5 a9b3=6 a9b4-a9b5=7 ",
    "a9b6-a9b9=6 a9ba-a9bb=7 a9bc-a9bd=6 a9be-a9c0=7 a9c1-a9cd=18 a9cf=4 a9d0-a9d9=9 a9de-a9df=18 ",
    "a9e0-a9e4=5 a9e5=6 a9e6=4 a9e7-a9ef=5 a9f0-a9f9=9 a9fa-a9fe=5 aa00-aa28=5 aa29-aa2e=6 ",
    "aa2f-aa30=7 aa31-aa32=6 aa33-aa34=7 aa35-aa36=6 aa40-aa42=5 aa43=6 aa44-aa4b=5 aa4c=6 aa4d=7 ",
    "aa50-aa59=9 aa5c-aa5f=18 aa60-aa6f=5 aa70=4 aa71-aa76=5 aa77-aa79=22 aa7a=5 aa7b=7 aa7c=6 aa7d=7 ",
    "aa7e-aaaf=5 aab0=6 aab1=5 aab2-aab4=6 aab5-aab6=5 aab7-aab8=6 aab9-aabd=5 aabe-aabf=6 aac0=5 ",
    "aac1=6 aac2=5 aadb-aadc=5 aadd=4 aade-aadf=18 aae0-aaea=5 aaeb=7 aaec-aaed=6 aaee-aaef=7 ",
    "aaf0-aaf1=18 aaf2=5 aaf3-aaf4=4 aaf5=7 aaf6=6 ab01-ab06=5 ab09-ab0e=5 ab11-ab16=5 ab20-ab26=5 ",
    "ab28-ab2e=5 ab30-ab5a=2 ab5b=21 ab5c-ab5f=4 ab60-ab68=2 ab69=4 ab6a-ab6b=21 ab70-abbf=2 ",
    "abc0-abe2=5 abe3-abe4=7 abe5=6 abe6-abe7=7 abe8=6 abe9-abea=7 abeb=18 abec=7 abed=6 abf0-abf9=9 ",
    "ac00-d7a3=5 d7b0-d7c6=5 d7cb-d7fb=5 d800-dfff=28 e000-f8ff=29 f900-fa6d=5 fa70-fad9=5 ",
    "fb00-fb06=2 fb13-fb17=2 fb1d=5 fb1e=6 fb1f-fb28=5 fb29=19 fb2a-fb36=5 fb38-fb3c=5 fb3e=5 ",
    "fb40-fb41=5 fb43-fb44=5 fb46-fbb1=5 fbb2-fbc2=21 fbd3-fd3d=5 fd3e=15 fd3f=14 fd40-fd4f=22 ",
    "fd50-fd8f=5 fd92-fdc7=5 fdcf=22 fdf0-fdfb=5 fdfc=20 fdfd-fdff=22 fe00-fe0f=6 fe10-fe16=18 ",
    "fe17=14 fe18=15 fe19=18 fe20-fe2f=6 fe30=18 fe31-fe32=13 fe33-fe34=12 fe35=14 fe36=15 fe37=14 ",
    "fe38=15 fe39=14 fe3a=15 fe3b=14 fe3c=15 fe3d=14 fe3e=15 fe3f=14 fe40=15 fe41=14 fe42=15 fe43=14 ",
    "fe44=15 fe45-fe46=18 fe47=14 fe48=15 fe49-fe4c=18 fe4d-fe4f=12 fe50-fe52=18 fe54-fe57=18 fe58=13 ",
    "fe59=14 fe5a=15 fe5b=14 fe5c=15 fe5d=14 fe5e=15 fe5f-fe61=18 fe62=19 fe63=13 fe64-fe66=19 ",
    "fe68=18 fe69=20 fe6a-fe6b=18 fe70-fe74=5 fe76-fefc=5 feff=27 ff01-ff03=18 ff04=20 ff05-ff07=18 ",
    "ff08=14 ff09=15 ff0a=18 ff0b=19 ff0c=18 ff0d=13 ff0e-ff0f=18 ff10-ff19=9 ff1a-ff1b=18 ",
    "ff1c-ff1e=19 ff1f-ff20=18 ff21-ff3a=1 ff3b=14 ff3c=18 ff3d=15 ff3e=21 ff3f=12 ff40=21 ",
    "ff41-ff5a=2 ff5b=14 ff5c=19 ff5d=15 ff5e=19 ff5f=14 ff60=15 ff61=18 ff62=14 ff63=15 ff64-ff65=18 ",
    "ff66-ff6f=5 ff70=4 ff71-ff9d=5 ff9e-ff9f=4 ffa0-ffbe=5 ffc2-ffc7=5 ffca-ffcf=5 ffd2-ffd7=5 ",
    "ffda-ffdc=5 ffe0-ffe1=20 ffe2=19 ffe3=21 ffe4=22 ffe5-ffe6=20 ffe8=22 ffe9-ffec=19 ffed-ffee=22 ",
    "fff9-fffb=27 fffc-fffd=22 10000-1000b=5 1000d-10026=5 10028-1003a=5 1003c-1003d=5 1003f-1004d=5 ",
    "10050-1005d=5 10080-100fa=5 10100-10102=18 10107-10133=11 10137-1013f=22 10140-10174=10 ",
    "10175-10178=11 10179-10189=22 1018a-1018b=11 1018c-1018e=22 10190-1019c=22 101a0=22 ",
    "101d0-101fc=22 101fd=6 10280-1029c=5 102a0-102d0=5 102e0=6 102e1-102fb=11 10300-1031f=5 ",
    "10320-10323=11 1032d-10340=5 10341=10 10342-10349=5 1034a=10 10350-10375=5 10376-1037a=6 ",
    "10380-1039d=5 1039f=18 103a0-103c3=5 103c8-103cf=5 103d0=18 103d1-103d5=10 10400-10427=1 ",
    "10428-1044f=2 10450-1049d=5 104a0-104a9=9 104b0-104d3=1 104d8-104fb=2 10500-10527=5 ",
    "10530-10563=5 1056f=18 10570-1057a=1 1057c-1058a=1 1058c-10592=1 10594-10595=1 10597-105a1=2 ",
    "105a3-105b1=2 105b3-105b9=2 105bb-105bc=2 10600-10736=5 10740-10755=5 10760-10767=5 ",
    "10780-10785=4 10787-107b0=4 107b2-107ba=4 10800-10805=5 10808=5 1080a-10835=5 10837-10838=5 ",
    "1083c=5 1083f-10855=5 10857=18 10858-1085f=11 10860-10876=5 10877-10878=22 10879-1087f=11 ",
    "10880-1089e=5 108a7-108af=11 108e0-108f2=5 108f4-108f5=5 108fb-108ff=11 10900-10915=5 ",
    "10916-1091b=11 1091f=18 10920-10939=5 1093f=18 10980-109b7=5 109bc-109bd=11 109be-109bf=5 ",
    "109c0-109cf=11 109d2-109ff=11 10a00=5 10a01-10a03=6 10a05-10a06=6 10a0c-10a0f=6 10a10-10a13=5 ",
    "10a15-10a17=5 10a19-10a35=5 10a38-10a3a=6 10a3f=6 10a40-10a48=11 10a50-10a58=18 10a60-10a7c=5 ",
    "10a7d-10a7e=11 10a7f=18 10a80-10a9c=5 10a9d-10a9f=11 10ac0-10ac7=5 10ac8=22 10ac9-10ae4=5 ",
    "10ae5-10ae6=6 10aeb-10aef=11 10af0-10af6=18 10b00-10b35=5 10b39-10b3f=18 10b40-10b55=5 ",
    "10b58-10b5f=11 10b60-10b72=5 10b78-10b7f=11 10b80-10b91=5 10b99-10b9c=18 10ba9-10baf=11 ",
    "10c00-10c48=5 10c80-10cb2=1 10cc0-10cf2=2 10cfa-10cff=11 10d00-10d23=5 10d24-10d27=6 ",
    "10d30-10d39=9 10e60-10e7e=11 10e80-10ea9=5 10eab-10eac=6 10ead=13 10eb0-10eb1=5 10efd-10eff=6 ",
    "10f00-10f1c=5 10f1d-10f26=11 10f27=5 10f30-10f45=5 10f46-10f50=6 10f51-10f54=11 10f55-10f59=18 ",
    "10f70-10f81=5 10f82-10f85=6 10f86-10f89=18 10fb0-10fc4=5 10fc5-10fcb=11 10fe0-10ff6=5 11000=7 ",
    "11001=6 11002=7 11003-11037=5 11038-11046=6 11047-1104d=18 11052-11065=11 11066-1106f=9 11070=6 ",
    "11071-11072=5 11073-11074=6 11075=5 1107f-11081=6 11082=7 11083-110af=5 110b0-110b2=7 ",
    "110b3-110b6=6 110b7-110b8=7 110b9-110ba=6 110bb-110bc=18 110bd=27 110be-110c1=18 110c2=6 ",
    "110cd=27 110d0-110e8=5 110f0-110f9=9 11100-11102=6 11103-11126=5 11127-1112b=6 1112c=7 ",
    "1112d-11134=6 11136-1113f=9 11140-11143=18 11144=5 11145-11146=7 11147=5 11150-11172=5 11173=6 ",
    "11174-11175=18 11176=5 11180-11181=6 11182=7 11183-111b2=5 111b3-111b5=7 111b6-111be=6 ",
    "111bf-111c0=7 111c1-111c4=5 111c5-111c8=18 111c9-111cc=6 111cd=18 111ce=7 111cf=6 111d0-111d9=9 ",
    "111da=5 111db=18 111dc=5 111dd-111df=18 111e1-111f4=11 11200-11211=5 11213-1122b=5 1122c-1122e=7 ",
    "1122f-11231=6 11232-11233=7 11234=6 11235=7 11236-11237=6 11238-1123d=18 1123e=6 1123f-11240=5 ",
    "11241=6 11280-11286=5 11288=5 1128a-1128d=5 1128f-1129d=5 1129f-112a8=5 112a9=18 112b0-112de=5 ",
    "112df=6 112e0-112e2=7 112e3-112ea=6 112f0-112f9=9 11300-11301=6 11302-11303=7 11305-1130c=5 ",
    "1130f-11310=5 11313-11328=5 1132a-11330=5 11332-11333=5 11335-11339=5 1133b-1133c=6 1133d=5 ",
    "1133e-1133f=7 11340=6 11341-11344=7 11347-11348=7 1134b-1134d=7 11350=5 11357=7 1135d-11361=5 ",
    "11362-11363=7 11366-1136c=6 11370-11374=6 11400-11434=5 11435-11437=7 11438-1143f=6 ",
    "11440-11441=7 11442-11444=6 11445=7 11446=6 11447-1144a=5 1144b-1144f=18 11450-11459=9 ",
    "1145a-1145b=18 1145d=18 1145e=6 1145f-11461=5 11480-114af=5 114b0-114b2=7 114b3-114b8=6 114b9=7 ",
    "114ba=6 114bb-114be=7 114bf-114c0=6 114c1=7 114c2-114c3=6 114c4-114c5=5 114c6=18 114c7=5 ",
    "114d0-114d9=9 11580-115ae=5 115af-115b1=7 115b2-115b5=6 115b8-115bb=7 115bc-115bd=6 115be=7 ",
    "115bf-115c0=6 115c1-115d7=18 115d8-115db=5 115dc-115dd=6 11600-1162f=5 11630-11632=7 ",
    "11633-1163a=6 1163b-1163c=7 1163d=6 1163e=7 1163f-11640=6 11641-11643=18 11644=5 11650-11659=9 ",
    "11660-1166c=18 11680-116aa=5 116ab=6 116ac=7 116ad=6 116ae-116af=7 116b0-116b5=6 116b6=7 116b7=6 ",
    "116b8=5 116b9=18 116c0-116c9=9 11700-1171a=5 1171d-1171f=6 11720-11721=7 11722-11725=6 11726=7 ",
    "11727-1172b=6 11730-11739=9 1173a-1173b=11 1173c-1173e=18 1173f=22 11740-11746=5 11800-1182b=5 ",
    "1182c-1182e=7 1182f-11837=6 11838=7 11839-1183a=6 1183b=18 118a0-118bf=1 118c0-118df=2 ",
    "118e0-118e9=9 118ea-118f2=11 118ff-11906=5 11909=5 1190c-11913=5 11915-11916=5 11918-1192f=5 ",
    "11930-11935=7 11937-11938=7 1193b-1193c=6 1193d=7 1193e=6 1193f=5 11940=7 11941=5 11942=7 ",
    "11943=6 11944-11946=18 11950-11959=9 119a0-119a7=5 119aa-119d0=5 119d1-119d3=7 119d4-119d7=6 ",
    "119da-119db=6 119dc-119df=7 119e0=6 119e1=5 119e2=18 119e3=5 119e4=7 11a00=5 11a01-11a0a=6 ",
    "11a0b-11a32=5 11a33-11a38=6 11a39=7 11a3a=5 11a3b-11a3e=6 11a3f-11a46=18 11a47=6 11a50=5 ",
    "11a51-11a56=6 11a57-11a58=7 11a59-11a5b=6 11a5c-11a89=5 11a8a-11a96=6 11a97=7 11a98-11a99=6 ",
    "11a9a-11a9c=18 11a9d=5 11a9e-11aa2=18 11ab0-11af8=5 11b00-11b09=18 11c00-11c08=5 11c0a-11c2e=5 ",
    "11c2f=7 11c30-11c36=6 11c38-11c3d=6 11c3e=7 11c3f=6 11c40=5 11c41-11c45=18 11c50-11c59=9 ",
    "11c5a-11c6c=11 11c70-11c71=18 11c72-11c8f=5 11c92-11ca7=6 11ca9=7 11caa-11cb0=6 11cb1=7 ",
    "11cb2-11cb3=6 11cb4=7 11cb5-11cb6=6 11d00-11d06=5 11d08-11d09=5 11d0b-11d30=5 11d31-11d36=6 ",
    "11d3a=6 11d3c-11d3d=6 11d3f-11d45=6 11d46=5 11d47=6 11d50-11d59=9 11d60-11d65=5 11d67-11d68=5 ",
    "11d6a-11d89=5 11d8a-11d8e=7 11d90-11d91=6 11d93-11d94=7 11d95=6 11d96=7 11d97=6 11d98=5 ",
    "11da0-11da9=9 11ee0-11ef2=5 11ef3-11ef4=6 11ef5-11ef6=7 11ef7-11ef8=18 11f00-11f01=6 11f02=5 ",
    "11f03=7 11f04-11f10=5 11f12-11f33=5 11f34-11f35=7 11f36-11f3a=6 11f3e-11f3f=7 11f40=6 11f41=7 ",
    "11f42=6 11f43-11f4f=18 11f50-11f59=9 11fb0=5 11fc0-11fd4=11 11fd5-11fdc=22 11fdd-11fe0=20 ",
    "11fe1-11ff1=22 11fff=18 12000-12399=5 12400-1246e=10 12470-12474=18 12480-12543=5 12f90-12ff0=5 ",
    "12ff1-12ff2=18 13000-1342f=5 13430-1343f=27 13440=6 13441-13446=5 13447-13455=6 14400-14646=5 ",
    "16800-16a38=5 16a40-16a5e=5 16a60-16a69=9 16a6e-16a6f=18 16a70-16abe=5 16ac0-16ac9=9 ",
    "16ad0-16aed=5 16af0-16af4=6 16af5=18 16b00-16b2f=5 16b30-16b36=6 16b37-16b3b=18 16b3c-16b3f=22 ",
    "16b40-16b43=4 16b44=18 16b45=22 16b50-16b59=9 16b5b-16b61=11 16b63-16b77=5 16b7d-16b8f=5 ",
    "16e40-16e5f=1 16e60-16e7f=2 16e80-16e96=11 16e97-16e9a=18 16f00-16f4a=5 16f4f=6 16f50=5 ",
    "16f51-16f87=7 16f8f-16f92=6 16f93-16f9f=4 16fe0-16fe1=4 16fe2=18 16fe3=4 16fe4=6 16ff0-16ff1=7 ",
    "17000-187f7=5 18800-18cd5=5 18d00-18d08=5 1aff0-1aff3=4 1aff5-1affb=4 1affd-1affe=4 ",
    "1b000-1b122=5 1b132=5 1b150-1b152=5 1b155=5 1b164-1b167=5 1b170-1b2fb=5 1bc00-1bc6a=5 ",
    "1bc70-1bc7c=5 1bc80-1bc88=5 1bc90-1bc99=5 1bc9c=22 1bc9d-1bc9e=6 1bc9f=18 1bca0-1bca3=27 ",
    "1cf00-1cf2d=6 1cf30-1cf46=6 1cf50-1cfc3=22 1d000-1d0f5=22 1d100-1d126=22 1d129-1d164=22 ",
    "1d165-1d166=7 1d167-1d169=6 1d16a-1d16c=22 1d16d-1d172=7 1d173-1d17a=27 1d17b-1d182=6 ",
    "1d183-1d184=22 1d185-1d18b=6 1d18c-1d1a9=22 1d1aa-1d1ad=6 1d1ae-1d1ea=22 1d200-1d241=22 ",
    "1d242-1d244=6 1d245=22 1d2c0-1d2d3=11 1d2e0-1d2f3=11 1d300-1d356=22 1d360-1d378=11 1d400-1d419=1 ",
    "1d41a-1d433=2 1d434-1d44d=1 1d44e-1d454=2 1d456-1d467=2 1d468-1d481=1 1d482-1d49b=2 1d49c=1 ",
    "1d49e-1d49f=1 1d4a2=1 1d4a5-1d4a6=1 1d4a9-1d4ac=1 1d4ae-1d4b5=1 1d4b6-1d4b9=2 1d4bb=2 ",
    "1d4bd-1d4c3=2 1d4c5-1d4cf=2 1d4d0-1d4e9=1 1d4ea-1d503=2 1d504-1d505=1 1d507-1d50a=1 ",
    "1d50d-1d514=1 1d516-1d51c=1 1d51e-1d537=2 1d538-1d539=1 1d53b-1d53e=1 1d540-1d544=1 1d546=1 ",
    "1d54a-1d550=1 1d552-1d56b=2 1d56c-1d585=1 1d586-1d59f=2 1d5a0-1d5b9=1 1d5ba-1d5d3=2 ",
    "1d5d4-1d5ed=1 1d5ee-1d607=2 1d608-1d621=1 1d622-1d63b=2 1d63c-1d655=1 1d656-1d66f=2 ",
    "1d670-1d689=1 1d68a-1d6a5=2 1d6a8-1d6c0=1 1d6c1=19 1d6c2-1d6da=2 1d6db=19 1d6dc-1d6e1=2 ",
    "1d6e2-1d6fa=1 1d6fb=19 1d6fc-1d714=2 1d715=19 1d716-1d71b=2 1d71c-1d734=1 1d735=19 1d736-1d74e=2 ",
    "1d74f=19 1d750-1d755=2 1d756-1d76e=1 1d76f=19 1d770-1d788=2 1d789=19 1d78a-1d78f=2 1d790-1d7a8=1 ",
    "1d7a9=19 1d7aa-1d7c2=2 1d7c3=19 1d7c4-1d7c9=2 1d7ca=1 1d7cb=2 1d7ce-1d7ff=9 1d800-1d9ff=22 ",
    "1da00-1da36=6 1da37-1da3a=22 1da3b-1da6c=6 1da6d-1da74=22 1da75=6 1da76-1da83=22 1da84=6 ",
    "1da85-1da86=22 1da87-1da8b=18 1da9b-1da9f=6 1daa1-1daaf=6 1df00-1df09=2 1df0a=5 1df0b-1df1e=2 ",
    "1df25-1df2a=2 1e000-1e006=6 1e008-1e018=6 1e01b-1e021=6 1e023-1e024=6 1e026-1e02a=6 ",
    "1e030-1e06d=4 1e08f=6 1e100-1e12c=5 1e130-1e136=6 1e137-1e13d=4 1e140-1e149=9 1e14e=5 1e14f=22 ",
    "1e290-1e2ad=5 1e2ae=6 1e2c0-1e2eb=5 1e2ec-1e2ef=6 1e2f0-1e2f9=9 1e2ff=20 1e4d0-1e4ea=5 1e4eb=4 ",
    "1e4ec-1e4ef=6 1e4f0-1e4f9=9 1e7e0-1e7e6=5 1e7e8-1e7eb=5 1e7ed-1e7ee=5 1e7f0-1e7fe=5 ",
    "1e800-1e8c4=5 1e8c7-1e8cf=11 1e8d0-1e8d6=6 1e900-1e921=1 1e922-1e943=2 1e944-1e94a=6 1e94b=4 ",
    "1e950-1e959=9 1e95e-1e95f=18 1ec71-1ecab=11 1ecac=22 1ecad-1ecaf=11 1ecb0=20 1ecb1-1ecb4=11 ",
    "1ed01-1ed2d=11 1ed2e=22 1ed2f-1ed3d=11 1ee00-1ee03=5 1ee05-1ee1f=5 1ee21-1ee22=5 1ee24=5 1ee27=5 ",
    "1ee29-1ee32=5 1ee34-1ee37=5 1ee39=5 1ee3b=5 1ee42=5 1ee47=5 1ee49=5 1ee4b=5 1ee4d-1ee4f=5 ",
    "1ee51-1ee52=5 1ee54=5 1ee57=5 1ee59=5 1ee5b=5 1ee5d=5 1ee5f=5 1ee61-1ee62=5 1ee64=5 ",
    "1ee67-1ee6a=5 1ee6c-1ee72=5 1ee74-1ee77=5 1ee79-1ee7c=5 1ee7e=5 1ee80-1ee89=5 1ee8b-1ee9b=5 ",
    "1eea1-1eea3=5 1eea5-1eea9=5 1eeab-1eebb=5 1eef0-1eef1=19 1f000-1f02b=22 1f030-1f093=22 ",
    "1f0a0-1f0ae=22 1f0b1-1f0bf=22 1f0c1-1f0cf=22 1f0d1-1f0f5=22 1f100-1f10c=11 1f10d-1f1ad=22 ",
    "1f1e6-1f202=22 1f210-1f23b=22 1f240-1f248=22 1f250-1f251=22 1f260-1f265=22 1f300-1f3fa=22 ",
    "1f3fb-1f3ff=21 1f400-1f6d7=22 1f6dc-1f6ec=22 1f6f0-1f6fc=22 1f700-1f776=22 1f77b-1f7d9=22 ",
    "1f7e0-1f7eb=22 1f7f0=22 1f800-1f80b=22 1f810-1f847=22 1f850-1f859=22 1f860-1f887=22 ",
    "1f890-1f8ad=22 1f8b0-1f8b1=22 1f900-1fa53=22 1fa60-1fa6d=22 1fa70-1fa7c=22 1fa80-1fa88=22 ",
    "1fa90-1fabd=22 1fabf-1fac5=22 1face-1fadb=22 1fae0-1fae8=22 1faf0-1faf8=22 1fb00-1fb92=22 ",
    "1fb94-1fbca=22 1fbf0-1fbf9=9 20000-2a6df=5 2a700-2b739=5 2b740-2b81d=5 2b820-2cea1=5 ",
    "2ceb0-2ebe0=5 2f800-2fa1d=5 30000-3134a=5 31350-323af=5 e0001=27 e0020-e007f=27 e0100-e01ef=6 ",
    "f0000-ffffd=29 100000-10fffd=29"]

/-- The table of categories. -/
def categoryTable : RangeMap := .ofText categoryText

/-- Loose aliases of categories and their long names, entries `alias=Name`. -/
def categoryAliases : String :=
  String.join [
    "c=Other casedletter=Cased_Letter cc=Control cf=Format closepunctuation=Close_Punctuation ",
    "cn=Unassigned cntrl=Control co=Private_Use combiningmark=Mark ",
    "connectorpunctuation=Connector_Punctuation control=Control cs=Surrogate ",
    "currencysymbol=Currency_Symbol dashpunctuation=Dash_Punctuation decimalnumber=Decimal_Number ",
    "digit=Decimal_Number enclosingmark=Enclosing_Mark finalpunctuation=Final_Punctuation ",
    "format=Format initialpunctuation=Initial_Punctuation l=Letter l&=Cased_Letter lc=Cased_Letter ",
    "letter=Letter letternumber=Letter_Number lineseparator=Line_Separator ll=Lowercase_Letter ",
    "lm=Modifier_Letter lo=Other_Letter lowercaseletter=Lowercase_Letter lt=Titlecase_Letter ",
    "lu=Uppercase_Letter m=Mark mark=Mark mathsymbol=Math_Symbol mc=Spacing_Mark me=Enclosing_Mark ",
    "mn=Nonspacing_Mark modifierletter=Modifier_Letter modifiersymbol=Modifier_Symbol n=Number ",
    "nd=Decimal_Number nl=Letter_Number no=Other_Number nonspacingmark=Nonspacing_Mark number=Number ",
    "openpunctuation=Open_Punctuation other=Other otherletter=Other_Letter othernumber=Other_Number ",
    "otherpunctuation=Other_Punctuation othersymbol=Other_Symbol p=Punctuation ",
    "paragraphseparator=Paragraph_Separator pc=Connector_Punctuation pd=Dash_Punctuation ",
    "pe=Close_Punctuation pf=Final_Punctuation pi=Initial_Punctuation po=Other_Punctuation ",
    "privateuse=Private_Use ps=Open_Punctuation punct=Punctuation punctuation=Punctuation s=Symbol ",
    "sc=Currency_Symbol separator=Separator sk=Modifier_Symbol sm=Math_Symbol so=Other_Symbol ",
    "spaceseparator=Space_Separator spacingmark=Spacing_Mark surrogate=Surrogate symbol=Symbol ",
    "titlecaseletter=Titlecase_Letter unassigned=Unassigned uppercaseletter=Uppercase_Letter ",
    "z=Separator zl=Line_Separator zp=Paragraph_Separator zs=Space_Separator"]

/-- The grouped categories and the numbers of their members. -/
def categoryGroups : List (String × List Nat) :=
  [("Letter", [1, 2, 3, 4, 5]),
   ("Cased_Letter", [1, 2, 3]),
   ("Mark", [6, 7, 8]),
   ("Number", [9, 10, 11]),
   ("Punctuation", [12, 13, 14, 15, 16, 17, 18]),
   ("Symbol", [19, 20, 21, 22]),
   ("Separator", [23, 24, 25]),
   ("Other", [26, 27, 28, 29, 0])]

end SmartHelmet.Unicode
