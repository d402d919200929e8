import SmartHelmet.Unicode.Table
/-!
# Property names and the values of other properties

Property names are matched loosely, like values: `propertyAliases` takes each loose alias of a
property to its long name. Besides categories, scripts and binary properties, a class may name
the age of code points (the version that assigned them, numbered from `V1_1` on) and their
grapheme cluster, sentence and word break values. Unicode 15.0.
-/

namespace SmartHelmet.Unicode

/-- Loose aliases of properties and their long names, entries `alias=Name`. -/
def propertyAliases : String :=
  String.join [
    "age=Age ahex=ASCII_Hex_Digit alpha=Alphabetic alphabetic=Alphabetic ",
    "asciihexdigit=ASCII_Hex_Digit bc=Bidi_Class bidic=Bidi_Control bidiclass=Bidi_Class ",
    "bidicontrol=Bidi_Control bidim=Bidi_Mirrored bidimirrored=Bidi_Mirrored ",
    "bidimirroringglyph=Bidi_Mirroring_Glyph bidipairedbracket=Bidi_Paired_Bracket ",
    "bidipairedbrackettype=Bidi_Paired_Bracket_Type blk=Block block=Block bmg=Bidi_Mirroring_Glyph ",
    "bpb=Bidi_Paired_Bracket bpt=Bidi_Paired_Bracket_Type ",
    "canonicalcombiningclass=Canonical_Combining_Class cased=Cased casefolding=Case_Folding ",
    "caseignorable=Case_Ignorable category=General_Category ccc=Canonical_Combining_Class ",
    "ce=Composition_Exclusion cf=Case_Folding changeswhencasefolded=Changes_When_Casefolded ",
    "changeswhencasemapped=Changes_When_Casemapped changeswhenlowercased=Changes_When_Lowercased ",
    "changeswhennfkccasefolded=Changes_When_NFKC_Casefolded ",
    "changeswhentitlecased=Changes_When_Titlecased changeswhenuppercased=Changes_When_Uppercased ",
    "ci=Case_Ignorable compex=Full_Composition_Exclusion compositionexclusion=Composition_Exclusion ",
    "cwcf=Changes_When_Casefolded cwcm=Changes_When_Casemapped cwkcf=Changes_When_NFKC_Casefolded ",
    "cwl=Changes_When_Lowercased cwt=Changes_When_Titlecased cwu=Changes_When_Uppercased dash=Dash ",
    "decompositionmapping=Decomposition_Mapping decompositiontype=Decomposition_Type ",
    "defaultignorablecodepoint=Default_Ignorable_Code_Point dep=Deprecated deprecated=Deprecated ",
    "di=Default_Ignorable_Code_Point dia=Diacritic diacritic=Diacritic dm=Decomposition_Mapping ",
    "dt=Decomposition_Type ea=East_Asian_Width eastasianwidth=East_Asian_Width ",
    "ebase=Emoji_Modifier_Base ecomp=Emoji_Component emod=Emoji_Modifier emoji=Emoji ",
    "emojicomponent=Emoji_Component emojimodifier=Emoji_Modifier ",
    "emojimodifierbase=Emoji_Modifier_Base emojipresentation=Emoji_Presentation ",
    "epres=Emoji_Presentation equideo=Equivalent_Unified_Ideograph ",
    "equivalentunifiedideograph=Equivalent_Unified_Ideograph ext=Extender ",
    "extendedpictographic=Extended_Pictographic extender=Extender extpict=Extended_Pictographic ",
    "fullcompositionexclusion=Full_Composition_Exclusion gc=General_Category ",
    "gcb=Grapheme_Cluster_Break generalcategory=General_Category graphemebase=Grapheme_Base ",
    "graphemeclusterbreak=Grapheme_Cluster_Break graphemeextend=Grapheme_Extend grbase=Grapheme_Base ",
    "grext=Grapheme_Extend hangulsyllabletype=Hangul_Syllable_Type hex=Hex_Digit hexdigit=Hex_Digit ",
    "hst=Hangul_Syllable_Type hyphen=Hyphen idc=ID_Continue idcontinue=ID_Continue ",
    "identifierstatus=Identifier_Status identifiertype=Identifier_Type ideo=Ideographic ",
    "ideographic=Ideographic ids=ID_Start idsb=IDS_Binary_Operator ",
    "idsbinaryoperator=IDS_Binary_Operator idst=IDS_Trinary_Operator idstart=ID_Start ",
    "idstrinaryoperator=IDS_Trinary_Operator in=Present_In ",
    "indicpositionalcategory=Indic_Positional_Category indicsyllabiccategory=Indic_Syllabic_Category ",
    "inpc=Indic_Positional_Category insc=Indic_Syllabic_Category isc=ISO_Comment jg=Joining_Group ",
    "joinc=Join_Control joincontrol=Join_Control joininggroup=Joining_Group joiningtype=Joining_Type ",
    "jt=Joining_Type lb=Line_Break lc=Lowercase_Mapping linebreak=Line_Break ",
    "loe=Logical_Order_Exception logicalorderexception=Logical_Order_Exception lower=Lowercase ",
    "lowercase=Lowercase lowercasemapping=Lowercase_Mapping math=Math na=Name na1=Unicode_1_Name ",
    "name=Name namealias=Name_Alias nchar=Noncharacter_Code_Point nfcqc=NFC_Quick_Check ",
    "nfcquickcheck=NFC_Quick_Check nfdqc=NFD_Quick_Check nfdquickcheck=NFD_Quick_Check ",
    "nfkccasefold=NFKC_Casefold nfkccf=NFKC_Casefold nfkcqc=NFKC_Quick_Check ",
    "nfkcquickcheck=NFKC_Quick_Check nfkdqc=NFKD_Quick_Check nfkdquickcheck=NFKD_Quick_Check ",
    "noncharactercodepoint=Noncharacter_Code_Point nt=Numeric_Type numerictype=Numeric_Type ",
    "numericvalue=Numeric_Value nv=Numeric_Value ocomment=ISO_Comment patsyn=Pattern_Syntax ",
    "patternsyntax=Pattern_Syntax patternwhitespace=Pattern_White_Space patws=Pattern_White_Space ",
    "pcm=Prepended_Concatenation_Mark prependedconcatenationmark=Prepended_Concatenation_Mark ",
    "presentin=Present_In qmark=Quotation_Mark quotationmark=Quotation_Mark radical=Radical ",
    "regionalindicator=Regional_Indicator ri=Regional_Indicator sb=Sentence_Break sc=Script ",
    "scf=Simple_Case_Folding script=Script scriptextensions=Script_Extensions scx=Script_Extensions ",
    "sd=Soft_Dotted sentencebreak=Sentence_Break sentenceterminal=Sentence_Terminal ",
    "sfc=Simple_Case_Folding simplecasefolding=Simple_Case_Folding ",
    "simplelowercasemapping=Simple_Lowercase_Mapping simpletitlecasemapping=Simple_Titlecase_Mapping ",
    "simpleuppercasemapping=Simple_Uppercase_Mapping slc=Simple_Lowercase_Mapping ",
    "softdotted=Soft_Dotted space=White_Space stc=Simple_Titlecase_Mapping sterm=Sentence_Terminal ",
    "suc=Simple_Uppercase_Mapping tc=Titlecase_Mapping term=Terminal_Punctuation ",
    "terminalpunctuation=Terminal_Punctuation titlecasemapping=Titlecase_Mapping uc=Uppercase_Mapping ",
    "uideo=Unified_Ideograph unicode1name=Unicode_1_Name unifiedideograph=Unified_Ideograph ",
    "upper=Uppercase uppercase=Uppercase uppercasemapping=Uppercase_Mapping ",
    "variationselector=Variation_Selector verticalorientation=Vertical_Orientation ",
    "vo=Vertical_Orientation vs=Variation_Selector wb=Word_Break whitespace=White_Space ",
    "wordbreak=Word_Break wspace=White_Space xidc=XID_Continue xidcontinue=XID_Continue ",
    "xids=XID_Start xidstart=XID_Start"]

/-- The versions of Unicode in order; a code point's age is its position here, from 1. -/
def ageNames : List String :=
  ["V1_1", "V2_0", "V2_1", "V3_0", "V3_1", "V3_2", "V4_0", "V4_1", "V5_0", "V5_1", "V5_2", "V6_0", "V6_1", "V6_2", "V6_3", "V7_0", "V8_0", "V9_0", "V10_0", "V11_0", "V12_0", "V12_1", "V13_0", "V14_0", "V15_0"]

/-- Loose aliases of ages and their long names. -/
def ageAliases : String :=
  String.join [
    "1.1=V1_1 10.0=V10_0 11.0=V11_0 12.0=V12_0 12.1=V12_1 13.0=V13_0 14.0=V14_0 15.0=V15_0 2.0=V2_0 ",
    "2.1=V2_1 3.0=V3_0 3.1=V3_1 3.2=V3_2 4.0=V4_0 4.1=V4_1 5.0=V5_0 5.1=V5_1 5.2=V5_2 6.0=V6_0 ",
    "6.1=V6_1 6.2=V6_2 6.3=V6_3 7.0=V7_0 8.0=V8_0 9.0=V9_0 na=Unassigned unassigned=Unassigned ",
    "v100=V10_0 v11=V1_1 v110=V11_0 v120=V12_0 v121=V12_1 v130=V13_0 v140=V14_0 v150=V15_0 v20=V2_0 ",
    "v21=V2_1 v30=V3_0 v31=V3_1 v32=V3_2 v40=V4_0 v41=V4_1 v50=V5_0 v51=V5_1 v52=V5_2 v60=V6_0 ",
    "v61=V6_1 v62=V6_2 v63=V6_3 v70=V7_0 v80=V8_0 v90=V9_0"]

/-- The ages of the assigned code points. -/
def ageText : String :=
  String.join [
    "0-1f5=1 1f6-1f9=4 1fa-217=1 218-21f=4 220=6 221=7 222-233=4 234-236=7 237-241=8 242-24f=9 ",
    "250-2a8=1 2a9-2ad=4 2ae-2af=7 2b0-2de=1 2df=4 2e0-2e9=1 2ea-2ee=4 2ef-2ff=7 300-345=1 346-34e=4 ",
    "34f=6 350-357=7 358-35c=8 35d-35f=7 360-361=1 362=4 363-36f=6 370-373=10 374-375=1 376-377=10 ",
    "37a=1 37b-37d=9 37e=1 37f=16 384-38a=1 38c=1 38e-3a1=1 3a3-3ce=1 3cf=10 3d0-3d6=1 3d7=4 ",
    "3d8-3d9=6 3da=1 3db=4 3dc=1 3dd=4 3de=1 3df=4 3e0=1 3e1=4 3e2-3f3=1 3f4-3f5=5 3f6=6 3f7-3fb=7 ",
    "3fc-3ff=8 400=4 401-40c=1 40d=4 40e-44f=1 450=4 451-45c=1 45d=4 45e-486=1 487=10 488-489=4 ",
    "48a-48b=6 48c-48f=4 490-4c4=1 4c5-4c6=6 4c7-4c8=1 4c9-4ca=6 4cb-4cc=1 4cd-4ce=6 4cf=9 4d0-4eb=1 ",
    "4ec-4ed=4 4ee-4f5=1 4f6-4f7=8 4f8-4f9=1 4fa-4ff=9 500-50f=6 510-513=9 514-523=10 524-525=11 ",
    "526-527=12 528-52f=16 531-556=1 559-55f=1 560=20 561-587=1 588=20 589=1 58a=4 58d-58e=16 58f=13 ",
    "591-5a1=2 5a2=8 5a3-5af=2 5b0-5b9=1 5ba=9 5bb-5c3=1 5c4=2 5c5-5c7=8 5d0-5ea=1 5ef=20 5f0-5f4=1 ",
    "600-603=7 604=13 605=16 606-60a=10 60b=8 60c=1 60d-615=7 616-61a=10 61b=1 61c=15 61d=24 61e=8 ",
    "61f=1 620=12 621-63a=1 63b-63f=10 640-652=1 653-655=4 656-658=7 659-65e=8 65f=12 660-66d=1 ",
    "66e-66f=6 670-6b7=1 6b8-6b9=4 6ba-6be=1 6bf=4 6c0-6ce=1 6cf=4 6d0-6ed=1 6ee-6ef=7 6f0-6f9=1 ",
    "6fa-6fe=4 6ff=7 700-70d=4 70f-72c=4 72d-72f=7 730-74a=4 74d-74f=7 750-76d=8 76e-77f=10 780-7b0=4 ",
    "7b1=6 7c0-7fa=9 7fd-7ff=20 800-82d=11 830-83e=11 840-85b=12 85e=12 860-86a=19 870-88e=24 ",
    "890-891=24 898-89f=24 8a0=13 8a1=16 8a2-8ac=13 8ad-8b2=16 8b3-8b4=17 8b5=24 8b6-8bd=18 ",
    "8be-8c7=23 8c8-8d2=24 8d3=20 8d4-8e2=18 8e3=17 8e4-8fe=13 8ff=16 900=11 901-903=1 904=7 ",
    "905-939=1 93a-93b=12 93c-94d=1 94e=11 94f=12 950-954=1 955=11 956-957=12 958-970=1 971-972=10 ",
    "973-977=12 978=16 979-97a=11 97b-97c=9 97d=8 97e-97f=9 980=16 981-983=1 985-98c=1 98f-990=1 ",
    "993-9a8=1 9aa-9b0=1 9b2=1 9b6-9b9=1 9bc=1 9bd=7 9be-9c4=1 9c7-9c8=1 9cb-9cd=1 9ce=8 9d7=1 ",
    "9dc-9dd=1 9df-9e3=1 9e6-9fa=1 9fb=11 9fc-9fd=19 9fe=20 a01=7 a02=1 a03=7 a05-a0a=1 a0f-a10=1 ",
    "a13-a28=1 a2a-a30=1 a32-a33=1 a35-a36=1 a38-a39=1 a3c=1 a3e-a42=1 a47-a48=1 a4b-a4d=1 a51=10 ",
    "a59-a5c=1 a5e=1 a66-a74=1 a75=10 a76=20 a81-a83=1 a85-a8b=1 a8c=7 a8d=1 a8f-a91=1 a93-aa8=1 ",
    "aaa-ab0=1 ab2-ab3=1 ab5-ab9=1 abc-ac5=1 ac7-ac9=1 acb-acd=1 ad0=1 ae0=1 ae1-ae3=7 ae6-aef=1 ",
    "af0=13 af1=7 af9=17 afa-aff=19 b01-b03=1 b05-b0c=1 b0f-b10=1 b13-b28=1 b2a-b30=1 b32-b33=1 b35=7 ",
    "b36-b39=1 b3c-b43=1 b44=10 b47-b48=1 b4b-b4d=1 b55=23 b56-b57=1 b5c-b5d=1 b5f-b61=1 b62-b63=10 ",
    "b66-b70=1 b71=7 b72-b77=12 b82-b83=1 b85-b8a=1 b8e-b90=1 b92-b95=1 b99-b9a=1 b9c=1 b9e-b9f=1 ",
    "ba3-ba4=1 ba8-baa=1 bae-bb5=1 bb6=8 bb7-bb9=1 bbe-bc2=1 bc6-bc8=1 bca-bcd=1 bd0=10 bd7=1 be6=8 ",
    "be7-bf2=1 bf3-bfa=7 c00=16 c01-c03=1 c04=20 c05-c0c=1 c0e-c10=1 c12-c28=1 c2a-c33=1 c34=16 ",
    "c35-c39=1 c3c=24 c3d=10 c3e-c44=1 c46-c48=1 c4a-c4d=1 c55-c56=1 c58-c59=10 c5a=17 c5d=24 ",
    "c60-c61=1 c62-c63=10 c66-c6f=1 c77=21 c78-c7f=10 c80=18 c81=16 c82-c83=1 c84=20 c85-c8c=1 ",
    "c8e-c90=1 c92-ca8=1 caa-cb3=1 cb5-cb9=1 cbc-cbd=7 cbe-cc4=1 cc6-cc8=1 cca-ccd=1 cd5-cd6=1 cdd=24 ",
    "cde=1 ce0-ce1=1 ce2-ce3=9 ce6-cef=1 cf1-cf2=9 cf3=25 d00=19 d01=16 d02-d03=1 d04=23 d05-d0c=1 ",
    "d0e-d10=1 d12-d28=1 d29=12 d2a-d39=1 d3a=12 d3b-d3c=19 d3d=10 d3e-d43=1 d44=10 d46-d48=1 ",
    "d4a-d4d=1 d4e=12 d4f=18 d54-d56=18 d57=1 d58-d5e=18 d5f=17 d60-d61=1 d62-d63=10 d66-d6f=1 ",
    "d70-d75=10 d76-d78=18 d79-d7f=10 d81=23 d82-d83=4 d85-d96=4 d9a-db1=4 db3-dbb=4 dbd=4 dc0-dc6=4 ",
    "dca=4 dcf-dd4=4 dd6=4 dd8-ddf=4 de6-def=16 df2-df4=4 e01-e3a=1 e3f-e5b=1 e81-e82=1 e84=1 e86=21 ",
    "e87-e88=1 e89=21 e8a=1 e8c=21 e8d=1 e8e-e93=21 e94-e97=1 e98=21 e99-e9f=1 ea0=21 ea1-ea3=1 ea5=1 ",
    "ea7=1 ea8-ea9=21 eaa-eab=1 eac=21 ead-eb9=1 eba=21 ebb-ebd=1 ec0-ec4=1 ec6=1 ec8-ecd=1 ece=25 ",
    "ed0-ed9=1 edc-edd=1 ede-edf=13 f00-f47=2 f49-f69=2 f6a=4 f6b-f6c=10 f71-f8b=2 f8c-f8f=12 ",
    "f90-f95=2 f96=4 f97=2 f99-fad=2 fae-fb0=4 fb1-fb7=2 fb8=4 fb9=2 fba-fbc=4 fbe-fcc=4 fce=10 fcf=4 ",
    "fd0-fd1=8 fd2-fd4=10 fd5-fd8=11 fd9-fda=12 1000-1021=4 1022=10 1023-1027=4 1028=10 1029-102a=4 ",
    "102b=10 102c-1032=4 1033-1035=10 1036-1039=4 103a-103f=10 1040-1059=4 105a-1099=10 109a-109d=11 ",
    "109e-109f=10 10a0-10c5=1 10c7=13 10cd=13 10d0-10f6=1 10f7-10f8=6 10f9-10fa=8 10fb=1 10fc=8 ",
    "10fd-10ff=13 1100-1159=1 115a-115e=11 115f-11a2=1 11a3-11a7=11 11a8-11f9=1 11fa-11ff=11 ",
    "1200-1206=4 1207=8 1208-1246=4 1247=8 1248=4 124a-124d=4 1250-1256=4 1258=4 125a-125d=4 ",
    "1260-1286=4 1287=8 1288=4 128a-128d=4 1290-12ae=4 12af=8 12b0=4 12b2-12b5=4 12b8-12be=4 12c0=4 ",
    "12c2-12c5=4 12c8-12ce=4 12cf=8 12d0-12d6=4 12d8-12ee=4 12ef=8 12f0-130e=4 130f=8 1310=4 ",
    "1312-1315=4 1318-131e=4 131f=8 1320-1346=4 1347=8 1348-135a=4 135d-135e=12 135f-1360=8 ",
    "1361-137c=4 1380-1399=8 13a0-13f4=4 13f5=17 13f8-13fd=17 1400=11 1401-1676=4 1677-167f=11 ",
    "1680-169c=4 16a0-16f0=4 16f1-16f8=16 1700-170c=6 170d=24 170e-1714=6 1715=24 171f=24 1720-1736=6 ",
    "1740-1753=6 1760-176c=6 176e-1770=6 1772-1773=6 1780-17dc=4 17dd=7 17e0-17e9=4 17f0-17f9=7 ",
    "1800-180e=4 180f=24 1810-1819=4 1820-1877=4 1878=20 1880-18a9=4 18aa=10 18b0-18f5=11 1900-191c=7 ",
    "191d-191e=16 1920-192b=7 1930-193b=7 1940=7 1944-196d=7 1970-1974=7 1980-19a9=8 19aa-19ab=11 ",
    "19b0-19c9=8 19d0-19d9=8 19da=11 19de-19df=8 19e0-19ff=7 1a00-1a1b=8 1a1e-1a1f=8 1a20-1a5e=11 ",
    "1a60-1a7c=11 1a7f-1a89=11 1a90-1a99=11 1aa0-1aad=11 1ab0-1abe=16 1abf-1ac0=23 1ac1-1ace=24 ",
    "1b00-1b4b=9 1b4c=24 1b50-1b7c=9 1b7d-1b7e=24 1b80-1baa=10 1bab-1bad=13 1bae-1bb9=10 1bba-1bbf=13 ",
    "1bc0-1bf3=12 1bfc-1bff=12 1c00-1c37=10 1c3b-1c49=10 1c4d-1c7f=10 1c80-1c88=18 1c90-1cba=20 ",
    "1cbd-1cbf=20 1cc0-1cc7=13 1cd0-1cf2=11 1cf3-1cf6=13 1cf7=19 1cf8-1cf9=16 1cfa=21 1d00-1d6b=7 ",
    "1d6c-1dc3=8 1dc4-1dca=9 1dcb-1de6=10 1de7-1df5=16 1df6-1df9=19 1dfa=24 1dfb=18 1dfc=12 1dfd=11 ",
    "1dfe-1dff=9 1e00-1e9a=1 1e9b=2 1e9c-1e9f=10 1ea0-1ef9=1 1efa-1eff=10 1f00-1f15=1 1f18-1f1d=1 ",
    "1f20-1f45=1 1f48-1f4d=1 1f50-1f57=1 1f59=1 1f5b=1 1f5d=1 1f5f-1f7d=1 1f80-1fb4=1 1fb6-1fc4=1 ",
    "1fc6-1fd3=1 1fd6-1fdb=1 1fdd-1fef=1 1ff2-1ff4=1 1ff6-1ffe=1 2000-202e=1 202f=4 2030-2046=1 ",
    "2047=6 2048-204d=4 204e-2052=6 2053-2054=7 2055-2056=8 2057=6 2058-205e=8 205f-2063=6 2064=10 ",
    "2066-2069=15 206a-2070=1 2071=6 2074-208e=1 2090-2094=8 2095-209c=12 20a0-20aa=1 20ab=2 20ac=3 ",
    "20ad-20af=4 20b0-20b1=6 20b2-20b5=8 20b6-20b8=11 20b9=12 20ba=14 20bb-20bd=16 20be=17 20bf=19 ",
    "20c0=24 20d0-20e1=1 20e2-20e3=4 20e4-20ea=6 20eb=8 20ec-20ef=9 20f0=10 2100-2138=1 2139-213a=4 ",
    "213b=7 213c=8 213d-214b=6 214c=8 214d-214e=9 214f=10 2150-2152=11 2153-2182=1 2183=4 2184=9 ",
    "2185-2188=10 2189=11 218a-218b=17 2190-21ea=1 21eb-21f3=4 21f4-21ff=6 2200-22f1=1 22f2-22ff=6 ",
    "2300=1 2301=4 2302-237a=1 237b=4 237c=6 237d-239a=4 239b-23ce=6 23cf-23d0=7 23d1-23db=8 ",
    "23dc-23e7=9 23e8=11 23e9-23f3=12 23f4-23fa=16 23fb-23fe=18 23ff=19 2400-2424=1 2425-2426=4 ",
    "2440-244a=1 2460-24ea=1 24eb-24fe=6 24ff=7 2500-2595=1 2596-259f=6 25a0-25ef=1 25f0-25f7=4 ",
    "25f8-25ff=6 2600-2613=1 2614-2615=7 2616-2617=6 2618=8 2619=4 261a-266f=1 2670-2671=4 ",
    "2672-267d=6 267e-267f=8 2680-2689=6 268a-2691=7 2692-269c=8 269d=10 269e-269f=11 26a0-26a1=7 ",
    "26a2-26b1=8 26b2=9 26b3-26bc=10 26bd-26bf=11 26c0-26c3=10 26c4-26cd=11 26ce=12 26cf-26e1=11 ",
    "26e2=12 26e3=11 26e4-26e7=12 26e8-26ff=11 2700=16 2701-2704=1 2705=12 2706-2709=1 270a-270b=12 ",
    "270c-2727=1 2728=12 2729-274b=1 274c=12 274d=1 274e=12 274f-2752=1 2753-2755=12 2756=1 2757=11 ",
    "2758-275e=1 275f-2760=12 2761-2767=1 2768-2775=6 2776-2794=1 2795-2797=12 2798-27af=1 27b0=12 ",
    "27b1-27be=1 27bf=12 27c0-27c6=8 27c7-27ca=9 27cb=13 27cc=10 27cd=13 27ce-27cf=12 27d0-27eb=6 ",
    "27ec-27ef=10 27f0-27ff=6 2800-28ff=4 2900-2aff=6 2b00-2b0d=7 2b0e-2b13=8 2b14-2b1a=9 ",
    "2b1b-2b1f=10 2b20-2b23=9 2b24-2b4c=10 2b4d-2b4f=16 2b50-2b54=10 2b55-2b59=11 2b5a-2b73=16 ",
    "2b76-2b95=16 2b97=23 2b98-2bb9=16 2bba-2bbc=20 2bbd-2bc8=16 2bc9=21 2bca-2bd1=16 2bd2=19 ",
    "2bd3-2beb=20 2bec-2bef=17 2bf0-2bfe=20 2bff=21 2c00-2c2e=8 2c2f=24 2c30-2c5e=8 2c5f=24 ",
    "2c60-2c6c=9 2c6d-2c6f=10 2c70=11 2c71-2c73=10 2c74-2c77=9 2c78-2c7d=10 2c7e-2c7f=11 2c80-2cea=8 ",
    "2ceb-2cf1=11 2cf2-2cf3=13 2cf9-2d25=8 2d27=13 2d2d=13 2d30-2d65=8 2d66-2d67=13 2d6f=8 2d70=12 ",
    "2d7f=12 2d80-2d96=8 2da0-2da6=8 2da8-2dae=8 2db0-2db6=8 2db8-2dbe=8 2dc0-2dc6=8 2dc8-2dce=8 ",
    "2dd0-2dd6=8 2dd8-2dde=8 2de0-2dff=10 2e00-2e17=8 2e18-2e1b=10 2e1c-2e1d=8 2e1e-2e30=10 2e31=11 ",
    "2e32-2e3b=13 2e3c-2e42=16 2e43-2e44=18 2e45-2e49=19 2e4a-2e4e=20 2e4f=21 2e50-2e52=23 ",
    "2e53-2e5d=24 2e80-2e99=4 2e9b-2ef3=4 2f00-2fd5=4 2ff0-2ffb=4 3000-3037=1 3038-303a=4 303b-303d=6 ",
    "303e=4 303f=1 3041-3094=1 3095-3096=6 3099-309e=1 309f-30a0=6 30a1-30fe=1 30ff=6 3105-312c=1 ",
    "312d=10 312e=19 312f=20 3131-318e=1 3190-319f=1 31a0-31b7=4 31b8-31ba=12 31bb-31bf=23 ",
    "31c0-31cf=8 31d0-31e3=10 31f0-31ff=6 3200-321c=1 321d-321e=7 3220-3243=1 3244-324f=11 3250=7 ",
    "3251-325f=6 3260-327b=1 327c-327d=7 327e=8 327f-32b0=1 32b1-32bf=6 32c0-32cb=1 32cc-32cf=7 ",
    "32d0-32fe=1 32ff=22 3300-3376=1 3377-337a=7 337b-33dd=1 33de-33df=7 33e0-33fe=1 33ff=7 ",
    "3400-4db5=4 4db6-4dbf=23 4dc0-4dff=7 4e00-9fa5=1 9fa6-9fbb=8 9fbc-9fc3=10 9fc4-9fcb=11 9fcc=13 ",
    "9fcd-9fd5=17 9fd6-9fea=19 9feb-9fef=20 9ff0-9ffc=23 9ffd-9fff=24 a000-a48c=4 a490-a4a1=4 ",
    "a4a2-a4a3=6 a4a4-a4b3=4 a4b4=6 a4b5-a4c0=4 a4c1=6 a4c2-a4c4=4 a4c5=6 a4c6=4 a4d0-a4ff=11 ",
    "a500-a62b=10 a640-a65f=10 a660-a661=12 a662-a673=10 a674-a67b=13 a67c-a697=10 a698-a69d=16 ",
    "a69e=17 a69f=13 a6a0-a6f7=11 a700-a716=8 a717-a71a=9 a71b-a71f=10 a720-a721=9 a722-a78c=10 ",
    "a78d-a78e=12 a78f=17 a790-a791=12 a792-a793=13 a794-a79f=16 a7a0-a7a9=12 a7aa=13 a7ab-a7ad=16 ",
    "a7ae=18 a7af=20 a7b0-a7b1=16 a7b2-a7b7=17 a7b8-a7b9=20 a7ba-a7bf=21 a7c0-a7c1=24 a7c2-a7c6=21 ",
    "a7c7-a7ca=23 a7d0-a7d1=24 a7d3=24 a7d5-a7d9=24 a7f2-a7f4=24 a7f5-a7f6=23 a7f7=16 a7f8-a7f9=13 ",
    "a7fa=12 a7fb-a7ff=10 a800-a82b=8 a82c=23 a830-a839=11 a840-a877=9 a880-a8c4=10 a8c5=18 ",
    "a8ce-a8d9=10 a8e0-a8fb=11 a8fc-a8fd=17 a8fe-a8ff=20 a900-a953=10 a95f=10 a960-a97c=11 ",
    "a980-a9cd=11 a9cf-a9d9=11 a9de-a9df=11 a9e0-a9fe=16 aa00-aa36=10 aa40-aa4d=10 aa50-aa59=10 ",
    "aa5c-aa5f=10 aa60-aa7b=11 aa7c-aa7f=16 aa80-aac2=11 aadb-aadf=11 aae0-aaf6=13 ab01-ab06=12 ",
    "ab09-ab0e=12 ab11-ab16=12 ab20-ab26=12 ab28-ab2e=12 ab30-ab5f=16 ab60-ab63=17 ab64-ab65=16 ",
    "ab66-ab67=21 ab68-ab6b=23 ab70-abbf=17 abc0-abed=11 abf0-abf9=11 ac00-d7a3=2 d7b0-d7c6=11 ",
    "d7cb-d7fb=11 d800-dfff=2 e000-fa2d=1 fa2e-fa2f=13 fa30-fa6a=6 fa6b-fa6d=11 fa70-fad9=8 ",
    "fb00-fb06=1 fb13-fb17=1 fb1d=4 fb1e-fb36=1 fb38-fb3c=1 fb3e=1 fb40-fb41=1 fb43-fb44=1 ",
    "fb46-fbb1=1 fbb2-fbc1=12 fbc2=24 fbd3-fd3f=1 fd40-fd4f=24 fd50-fd8f=1 fd92-fdc7=1 fdcf=24 ",
    "fdd0-fdef=5 fdf0-fdfb=1 fdfc=6 fdfd=7 fdfe-fdff=24 fe00-fe0f=6 fe10-fe19=8 fe20-fe23=1 ",
    "fe24-fe26=10 fe27-fe2d=16 fe2e-fe2f=17 fe30-fe44=1 fe45-fe46=6 fe47-fe48=7 fe49-fe52=1 ",
    "fe54-fe66=1 fe68-fe6b=1 fe70-fe72=1 fe73=6 fe74=1 fe76-fefc=1 feff=1 ff01-ff5e=1 ff5f-ff60=6 ",
    "ff61-ffbe=1 ffc2-ffc7=1 ffca-ffcf=1 ffd2-ffd7=1 ffda-ffdc=1 ffe0-ffe6=1 ffe8-ffee=1 fff9-fffb=4 ",
    "fffc=3 fffd-ffff=1 10000-1000b=7 1000d-10026=7 10028-1003a=7 1003c-1003d=7 1003f-1004d=7 ",
    "10050-1005d=7 10080-100fa=7 10100-10102=7 10107-10133=7 10137-1013f=7 10140-1018a=8 ",
    "1018b-1018c=16 1018d-1018e=18 10190-1019b=10 1019c=23 101a0=16 101d0-101fd=10 10280-1029c=10 ",
    "102a0-102d0=10 102e0-102fb=16 10300-1031e=5 1031f=16 10320-10323=5 1032d-1032f=19 10330-1034a=5 ",
    "10350-1037a=16 10380-1039d=7 1039f=7 103a0-103c3=8 103c8-103d5=8 10400-10425=5 10426-10427=7 ",
    "10428-1044d=5 1044e-1049d=7 104a0-104a9=7 104b0-104d3=18 104d8-104fb=18 10500-10527=16 ",
    "10530-10563=16 1056f=16 10570-1057a=24 1057c-1058a=24 1058c-10592=24 10594-10595=24 ",
    "10597-105a1=24 105a3-105b1=24 105b3-105b9=24 105bb-105bc=24 10600-10736=16 10740-10755=16 ",
    "10760-10767=16 10780-10785=24 10787-107b0=24 107b2-107ba=24 10800-10805=7 10808=7 1080a-10835=7 ",
    "10837-10838=7 1083c=7 1083f=7 10840-10855=11 10857-1085f=11 10860-1089e=16 108a7-108af=16 ",
    "108e0-108f2=17 108f4-108f5=17 108fb-108ff=17 10900-10919=9 1091a-1091b=11 1091f=9 10920-10939=10 ",
    "1093f=10 10980-109b7=13 109bc-109bd=17 109be-109bf=13 109c0-109cf=17 109d2-109ff=17 ",
    "10a00-10a03=8 10a05-10a06=8 10a0c-10a13=8 10a15-10a17=8 10a19-10a33=8 10a34-10a35=20 ",
    "10a38-10a3a=8 10a3f-10a47=8 10a48=20 10a50-10a58=8 10a60-10a7f=11 10a80-10a9f=16 10ac0-10ae6=16 ",
    "10aeb-10af6=16 10b00-10b35=11 10b39-10b55=11 10b58-10b72=11 10b78-10b7f=11 10b80-10b91=16 ",
    "10b99-10b9c=16 10ba9-10baf=16 10c00-10c48=11 10c80-10cb2=17 10cc0-10cf2=17 10cfa-10cff=17 ",
    "10d00-10d27=20 10d30-10d39=20 10e60-10e7e=11 10e80-10ea9=23 10eab-10ead=23 10eb0-10eb1=23 ",
    "10efd-10eff=25 10f00-10f27=20 10f30-10f59=20 10f70-10f89=24 10fb0-10fcb=23 10fe0-10ff6=21 ",
    "11000-1104d=12 11052-1106f=12 11070-11075=24 1107f=16 11080-110c1=11 110c2=24 110cd=20 ",
    "110d0-110e8=13 110f0-110f9=13 11100-11134=13 11136-11143=13 11144-11146=20 11147=23 ",
    "11150-11176=16 11180-111c8=13 111c9-111cc=17 111cd=16 111ce-111cf=23 111d0-111d9=13 111da=16 ",
    "111db-111df=17 111e1-111f4=16 11200-11211=16 11213-1123d=16 1123e=18 1123f-11241=25 ",
    "11280-11286=17 11288=17 1128a-1128d=17 1128f-1129d=17 1129f-112a9=17 112b0-112ea=16 ",
    "112f0-112f9=16 11300=17 11301-11303=16 11305-1130c=16 1130f-11310=16 11313-11328=16 ",
    "1132a-11330=16 11332-11333=16 11335-11339=16 1133b=20 1133c-11344=16 11347-11348=16 ",
    "1134b-1134d=16 11350=17 11357=16 1135d-11363=16 11366-1136c=16 11370-11374=16 11400-11459=18 ",
    "1145a=23 1145b=18 1145d=18 1145e=20 1145f=21 11460-11461=23 11480-114c7=16 114d0-114d9=16 ",
    "11580-115b5=16 115b8-115c9=16 115ca-115dd=17 11600-11644=16 11650-11659=16 11660-1166c=18 ",
    "11680-116b7=13 116b8=21 116b9=24 116c0-116c9=13 11700-11719=17 1171a=20 1171d-1172b=17 ",
    "11730-1173f=17 11740-11746=24 11800-1183b=20 118a0-118f2=16 118ff=16 11900-11906=23 11909=23 ",
    "1190c-11913=23 11915-11916=23 11918-11935=23 11937-11938=23 1193b-11946=23 11950-11959=23 ",
    "119a0-119a7=21 119aa-119d7=21 119da-119e4=21 11a00-11a47=19 11a50-11a83=19 11a84-11a85=21 ",
    "11a86-11a9c=19 11a9d=20 11a9e-11aa2=19 11ab0-11abf=24 11ac0-11af8=16 11b00-11b09=25 ",
    "11c00-11c08=18 11c0a-11c36=18 11c38-11c45=18 11c50-11c6c=18 11c70-11c8f=18 11c92-11ca7=18 ",
    "11ca9-11cb6=18 11d00-11d06=19 11d08-11d09=19 11d0b-11d36=19 11d3a=19 11d3c-11d3d=19 ",
    "11d3f-11d47=19 11d50-11d59=19 11d60-11d65=20 11d67-11d68=20 11d6a-11d8e=20 11d90-11d91=20 ",
    "11d93-11d98=20 11da0-11da9=20 11ee0-11ef8=20 11f00-11f10=25 11f12-11f3a=25 11f3e-11f59=25 ",
    "11fb0=23 11fc0-11ff1=21 11fff=21 12000-1236e=9 1236f-12398=16 12399=17 12400-12462=9 ",
    "12463-1246e=16 12470-12473=9 12474=16 12480-12543=17 12f90-12ff2=24 13000-1342e=11 1342f=25 ",
    "13430-13438=21 13439-13455=25 14400-14646=17 16800-16a38=12 16a40-16a5e=16 16a60-16a69=16 ",
    "16a6e-16a6f=16 16a70-16abe=24 16ac0-16ac9=24 16ad0-16aed=16 16af0-16af5=16 16b00-16b45=16 ",
    "16b50-16b59=16 16b5b-16b61=16 16b63-16b77=16 16b7d-16b8f=16 16e40-16e9a=20 16f00-16f44=13 ",
    "16f45-16f4a=21 16f4f=21 16f50-16f7e=13 16f7f-16f87=21 16f8f-16f9f=13 16fe0=18 16fe1=19 ",
    "16fe2-16fe3=21 16fe4=23 16ff0-16ff1=23 17000-187ec=18 187ed-187f1=20 187f2-187f7=21 ",
    "18800-18af2=18 18af3-18cd5=23 18d00-18d08=23 1aff0-1aff3=24 1aff5-1affb=24 1affd-1affe=24 ",
    "1b000-1b001=12 1b002-1b11e=19 1b11f-1b122=24 1b132=25 1b150-1b152=21 1b155=25 1b164-1b167=21 ",
    "1b170-1b2fb=19 1bc00-1bc6a=16 1bc70-1bc7c=16 1bc80-1bc88=16 1bc90-1bc99=16 1bc9c-1bca3=16 ",
    "1cf00-1cf2d=24 1cf30-1cf46=24 1cf50-1cfc3=24 1d000-1d0f5=5 1d100-1d126=5 1d129=10 1d12a-1d1dd=5 ",
    "1d1de-1d1e8=17 1d1e9-1d1ea=24 1d200-1d245=8 1d2c0-1d2d3=25 1d2e0-1d2f3=20 1d300-1d356=7 ",
    "1d360-1d371=9 1d372-1d378=20 1d400-1d454=5 1d456-1d49c=5 1d49e-1d49f=5 1d4a2=5 1d4a5-1d4a6=5 ",
    "1d4a9-1d4ac=5 1d4ae-1d4b9=5 1d4bb=5 1d4bd-1d4c0=5 1d4c1=7 1d4c2-1d4c3=5 1d4c5-1d505=5 ",
    "1d507-1d50a=5 1d50d-1d514=5 1d516-1d51c=5 1d51e-1d539=5 1d53b-1d53e=5 1d540-1d544=5 1d546=5 ",
    "1d54a-1d550=5 1d552-1d6a3=5 1d6a4-1d6a5=8 1d6a8-1d7c9=5 1d7ca-1d7cb=9 1d7ce-1d7ff=5 ",
    "1d800-1da8b=17 1da9b-1da9f=17 1daa1-1daaf=17 1df00-1df1e=24 1df25-1df2a=25 1e000-1e006=18 ",
    "1e008-1e018=18 1e01b-1e021=18 1e023-1e024=18 1e026-1e02a=18 1e030-1e06d=25 1e08f=25 ",
    "1e100-1e12c=21 1e130-1e13d=21 1e140-1e149=21 1e14e-1e14f=21 1e290-1e2ae=24 1e2c0-1e2f9=21 ",
    "1e2ff=21 1e4d0-1e4f9=25 1e7e0-1e7e6=24 1e7e8-1e7eb=24 1e7ed-1e7ee=24 1e7f0-1e7fe=24 ",
    "1e800-1e8c4=16 1e8c7-1e8d6=16 1e900-1e94a=18 1e94b=21 1e950-1e959=18 1e95e-1e95f=18 ",
    "1ec71-1ecb4=20 1ed01-1ed3d=21 1ee00-1ee03=13 1ee05-1ee1f=13 1ee21-1ee22=13 1ee24=13 1ee27=13 ",
    "1ee29-1ee32=13 1ee34-1ee37=13 1ee39=13 1ee3b=13 1ee42=13 1ee47=13 1ee49=13 1ee4b=13 ",
    "1ee4d-1ee4f=13 1ee51-1ee52=13 1ee54=13 1ee57=13 1ee59=13 1ee5b=13 1ee5d=13 1ee5f=13 ",
    "1ee61-1ee62=13 1ee64=13 1ee67-1ee6a=13 1ee6c-1ee72=13 1ee74-1ee77=13 1ee79-1ee7c=13 1ee7e=13 ",
    "1ee80-1ee89=13 1ee8b-1ee9b=13 1eea1-1eea3=13 1eea5-1eea9=13 1eeab-1eebb=13 1eef0-1eef1=13 ",
    "1f000-1f02b=10 1f030-1f093=10 1f0a0-1f0ae=12 1f0b1-1f0be=12 1f0bf=16 1f0c1-1f0cf=12 ",
    "1f0d1-1f0df=12 1f0e0-1f0f5=16 1f100-1f10a=11 1f10b-1f10c=16 1f10d-1f10f=23 1f110-1f12e=11 ",
    "1f12f=20 1f130=12 1f131=11 1f132-1f13c=12 1f13d=11 1f13e=12 1f13f=11 1f140-1f141=12 1f142=11 ",
    "1f143-1f145=12 1f146=11 1f147-1f149=12 1f14a-1f14e=11 1f14f-1f156=12 1f157=11 1f158-1f15e=12 ",
    "1f15f=11 1f160-1f169=12 1f16a-1f16b=13 1f16c=21 1f16d-1f16f=23 1f170-1f178=12 1f179=11 1f17a=12 ",
    "1f17b-1f17c=11 1f17d-1f17e=12 1f17f=11 1f180-1f189=12 1f18a-1f18d=11 1f18e-1f18f=12 1f190=11 ",
    "1f191-1f19a=12 1f19b-1f1ac=18 1f1ad=23 1f1e6-1f1ff=12 1f200=11 1f201-1f202=12 1f210-1f231=11 ",
    "1f232-1f23a=12 1f23b=18 1f240-1f248=11 1f250-1f251=12 1f260-1f265=19 1f300-1f320=12 ",
    "1f321-1f32c=16 1f32d-1f32f=17 1f330-1f335=12 1f336=16 1f337-1f37c=12 1f37d=16 1f37e-1f37f=17 ",
    "1f380-1f393=12 1f394-1f39f=16 1f3a0-1f3c4=12 1f3c5=16 1f3c6-1f3ca=12 1f3cb-1f3ce=16 ",
    "1f3cf-1f3d3=17 1f3d4-1f3df=16 1f3e0-1f3f0=12 1f3f1-1f3f7=16 1f3f8-1f3ff=17 1f400-1f43e=12 ",
    "1f43f=16 1f440=12 1f441=16 1f442-1f4f7=12 1f4f8=16 1f4f9-1f4fc=12 1f4fd-1f4fe=16 1f4ff=17 ",
    "1f500-1f53d=12 1f53e-1f53f=16 1f540-1f543=13 1f544-1f54a=16 1f54b-1f54f=17 1f550-1f567=12 ",
    "1f568-1f579=16 1f57a=18 1f57b-1f5a3=16 1f5a4=18 1f5a5-1f5fa=16 1f5fb-1f5ff=12 1f600=13 ",
    "1f601-1f610=12 1f611=13 1f612-1f614=12 1f615=13 1f616=12 1f617=13 1f618=12 1f619=13 1f61a=12 ",
    "1f61b=13 1f61c-1f61e=12 1f61f=13 1f620-1f625=12 1f626-1f627=13 1f628-1f62b=12 1f62c=13 1f62d=12 ",
    "1f62e-1f62f=13 1f630-1f633=12 1f634=13 1f635-1f640=12 1f641-1f642=16 1f643-1f644=17 ",
    "1f645-1f64f=12 1f650-1f67f=16 1f680-1f6c5=12 1f6c6-1f6cf=16 1f6d0=17 1f6d1-1f6d2=18 ",
    "1f6d3-1f6d4=19 1f6d5=21 1f6d6-1f6d7=23 1f6dc=25 1f6dd-1f6df=24 1f6e0-1f6ec=16 1f6f0-1f6f3=16 ",
    "1f6f4-1f6f6=18 1f6f7-1f6f8=19 1f6f9=20 1f6fa=21 1f6fb-1f6fc=23 1f700-1f773=12 1f774-1f776=25 ",
    "1f77b-1f77f=25 1f780-1f7d4=16 1f7d5-1f7d8=20 1f7d9=25 1f7e0-1f7eb=21 1f7f0=24 1f800-1f80b=16 ",
    "1f810-1f847=16 1f850-1f859=16 1f860-1f887=16 1f890-1f8ad=16 1f8b0-1f8b1=23 1f900-1f90b=19 ",
    "1f90c=23 1f90d-1f90f=21 1f910-1f918=17 1f919-1f91e=18 1f91f=19 1f920-1f927=18 1f928-1f92f=19 ",
    "1f930=18 1f931-1f932=19 1f933-1f93e=18 1f93f=21 1f940-1f94b=18 1f94c=19 1f94d-1f94f=20 ",
    "1f950-1f95e=18 1f95f-1f96b=19 1f96c-1f970=20 1f971=21 1f972=23 1f973-1f976=20 1f977-1f978=23 ",
    "1f979=24 1f97a=20 1f97b=21 1f97c-1f97f=20 1f980-1f984=17 1f985-1f991=18 1f992-1f997=19 ",
    "1f998-1f9a2=20 1f9a3-1f9a4=23 1f9a5-1f9aa=21 1f9ab-1f9ad=23 1f9ae-1f9af=21 1f9b0-1f9b9=20 ",
    "1f9ba-1f9bf=21 1f9c0=17 1f9c1-1f9c2=20 1f9c3-1f9ca=21 1f9cb=23 1f9cc=24 1f9cd-1f9cf=21 ",
    "1f9d0-1f9e6=19 1f9e7-1f9ff=20 1fa00-1fa53=21 1fa60-1fa6d=20 1fa70-1fa73=21 1fa74=23 ",
    "1fa75-1fa77=25 1fa78-1fa7a=21 1fa7b-1fa7c=24 1fa80-1fa82=21 1fa83-1fa86=23 1fa87-1fa88=25 ",
    "1fa90-1fa95=21 1fa96-1faa8=23 1faa9-1faac=24 1faad-1faaf=25 1fab0-1fab6=23 1fab7-1faba=24 ",
    "1fabb-1fabd=25 1fabf=25 1fac0-1fac2=23 1fac3-1fac5=24 1face-1facf=25 1fad0-1fad6=23 ",
    "1fad7-1fad9=24 1fada-1fadb=25 1fae0-1fae7=24 1fae8=25 1faf0-1faf6=24 1faf7-1faf8=25 ",
    "1fb00-1fb92=23 1fb94-1fbca=23 1fbf0-1fbf9=23 1fffe-1ffff=2 20000-2a6d6=5 2a6d7-2a6dd=23 ",
    "2a6de-2a6df=24 2a700-2b734=11 2b735-2b738=24 2b739=25 2b740-2b81d=12 2b820-2cea1=17 ",
    "2ceb0-2ebe0=19 2f800-2fa1d=5 2fffe-2ffff=2 30000-3134a=23 31350-323af=25 3fffe-3ffff=2 ",
    "4fffe-4ffff=2 5fffe-5ffff=2 6fffe-6ffff=2 7fffe-7ffff=2 8fffe-8ffff=2 9fffe-9ffff=2 ",
    "afffe-affff=2 bfffe-bffff=2 cfffe-cffff=2 dfffe-dffff=2 e0001=5 e0020-e007f=5 e0100-e01ef=7 ",
    "efffe-10ffff=2"]

/-- The long names of the grapheme cluster break values, numbered from 1. -/
def graphemeBreakNames : List String :=
  ["Control", "CR", "E_Base", "E_Base_GAZ", "E_Modifier", "Extend", "Glue_After_Zwj", "L", "LF", "LV", "LVT", "Prepend", "Regional_Indicator", "SpacingMark", "T", "V", "Other", "ZWJ"]

/-- Loose aliases of the grapheme cluster break values. -/
def graphemeBreakAliases : String :=
  String.join [
    "cn=Control control=Control cr=CR eb=E_Base ebase=E_Base ebasegaz=E_Base_GAZ ebg=E_Base_GAZ ",
    "em=E_Modifier emodifier=E_Modifier ex=Extend extend=Extend gaz=Glue_After_Zwj ",
    "glueafterzwj=Glue_After_Zwj l=L lf=LF lv=LV lvt=LVT other=Other pp=Prepend prepend=Prepend ",
    "regionalindicator=Regional_Indicator ri=Regional_Indicator sm=SpacingMark ",
    "spacingmark=SpacingMark t=T v=V xx=Other zwj=ZWJ"]

/-- The grapheme cluster break values other than `Other`. -/
def graphemeBreakText : String :=
  String.join [
    "0-9=1 a=9 b-c=1 d=2 e-1f=1 7f-9f=1 ad=1 300-36f=6 483-489=6 591-5bd=6 5bf=6 5c1-5c2=6 5c4-5c5=6 ",
    "5c7=6 600-605=12 610-61a=6 61c=1 64b-65f=6 670=6 6d6-6dc=6 6dd=12 6df-6e4=6 6e7-6e8=6 6ea-6ed=6 ",
    "70f=12 711=6 730-74a=6 7a6-7b0=6 7eb-7f3=6 7fd=6 816-819=6 81b-823=6 825-827=6 829-82d=6 ",
    "859-85b=6 890-891=12 898-89f=6 8ca-8e1=6 8e2=12 8e3-902=6 903=14 93a=6 93b=14 93c=6 93e-940=14 ",
    "941-948=6 949-94c=14 94d=6 94e-94f=14 951-957=6 962-963=6 981=6 982-983=14 9bc=6 9be=6 ",
    "9bf-9c0=14 9c1-9c4=6 9c7-9c8=14 9cb-9cc=14 9cd=6 9d7=6 9e2-9e3=6 9fe=6 a01-a02=6 a03=14 a3c=6 ",
    "a3e-a40=14 a41-a42=6 a47-a48=6 a4b-a4d=6 a51=6 a70-a71=6 a75=6 a81-a82=6 a83=14 abc=6 abe-ac0=14 ",
    "ac1-ac5=6 ac7-ac8=6 ac9=14 acb-acc=14 acd=6 ae2-ae3=6 afa-aff=6 b01=6 b02-b03=14 b3c=6 b3e-b3f=6 ",
    "b40=14 b41-b44=6 b47-b48=14 b4b-b4c=14 b4d=6 b55-b57=6 b62-b63=6 b82=6 bbe=6 bbf=14 bc0=6 ",
    "bc1-bc2=14 bc6-bc8=14 bca-bcc=14 bcd=6 bd7=6 c00=6 c01-c03=14 c04=6 c3c=6 c3e-c40=6 c41-c44=14 ",
    "c46-c48=6 c4a-c4d=6 c55-c56=6 c62-c63=6 c81=6 c82-c83=14 cbc=6 cbe=14 cbf=6 cc0-cc1=14 cc2=6 ",
    "cc3-cc4=14 cc6=6 cc7-cc8=14 cca-ccb=14 ccc-ccd=6 cd5-cd6=6 ce2-ce3=6 cf3=14 d00-d01=6 d02-d03=14 ",
    "d3b-d3c=6 d3e=6 d3f-d40=14 d41-d44=6 d46-d48=14 d4a-d4c=14 d4d=6 d4e=12 d57=6 d62-d63=6 d81=6 ",
    "d82-d83=14 dca=6 dcf=6 dd0-dd1=14 dd2-dd4=6 dd6=6 dd8-dde=14 ddf=6 df2-df3=14 e31=6 e33=14 ",
    "e34-e3a=6 e47-e4e=6 eb1=6 eb3=14 eb4-ebc=6 ec8-ece=6 f18-f19=6 f35=6 f37=6 f39=6 f3e-f3f=14 ",
    "f71-f7e=6 f7f=14 f80-f84=6 f86-f87=6 f8d-f97=6 f99-fbc=6 fc6=6 102d-1030=6 1031=14 1032-1037=6 ",
    "1039-103a=6 103b-103c=14 103d-103e=6 1056-1057=14 1058-1059=6 105e-1060=6 1071-1074=6 1082=6 ",
    "1084=14 1085-1086=6 108d=6 109d=6 1100-115f=8 1160-11a7=16 11a8-11ff=15 135d-135f=6 1712-1714=6 ",
    "1715=14 1732-1733=6 1734=14 1752-1753=6 1772-1773=6 17b4-17b5=6 17b6=14 17b7-17bd=6 17be-17c5=14 ",
    "17c6=6 17c7-17c8=14 17c9-17d3=6 17dd=6 180b-180d=6 180e=1 180f=6 1885-1886=6 18a9=6 1920-1922=6 ",
    "1923-1926=14 1927-1928=6 1929-192b=14 1930-1931=14 1932=6 1933-1938=14 1939-193b=6 1a17-1a18=6 ",
    "1a19-1a1a=14 1a1b=6 1a55=14 1a56=6 1a57=14 1a58-1a5e=6 1a60=6 1a62=6 1a65-1a6c=6 1a6d-1a72=14 ",
    "1a73-1a7c=6 1a7f=6 1ab0-1ace=6 1b00-1b03=6 1b04=14 1b34-1b3a=6 1b3b=14 1b3c=6 1b3d-1b41=14 ",
    "1b42=6 1b43-1b44=14 1b6b-1b73=6 1b80-1b81=6 1b82=14 1ba1=14 1ba2-1ba5=6 1ba6-1ba7=14 1ba8-1ba9=6 ",
    "1baa=14 1bab-1bad=6 1be6=6 1be7=14 1be8-1be9=6 1bea-1bec=14 1bed=6 1bee=14 1bef-1bf1=6 ",
    "1bf2-1bf3=14 1c24-1c2b=14 1c2c-1c33=6 1c34-1c35=14 1c36-1c37=6 1cd0-1cd2=6 1cd4-1ce0=6 1ce1=14 ",
    "1ce2-1ce8=6 1ced=6 1cf4=6 1cf7=14 1cf8-1cf9=6 1dc0-1dff=6 200b=1 200c=6 200d=18 200e-200f=1 ",
    "2028-202e=1 2060-206f=1 20d0-20f0=6 2cef-2cf1=6 2d7f=6 2de0-2dff=6 302a-302f=6 3099-309a=6 ",
    "a66f-a672=6 a674-a67d=6 a69e-a69f=6 a6f0-a6f1=6 a802=6 a806=6 a80b=6 a823-a824=14 a825-a826=6 ",
    "a827=14 a82c=6 a880-a881=14 a8b4-a8c3=14 a8c4-a8c5=6 a8e0-a8f1=6 a8ff=6 a926-a92d=6 a947-a951=6 ",
    "a952-a953=14 a960-a97c=8 a980-a982=6 a983=14 a9b3=6 a9b4-a9b5=14 a9b6-a9b9=6 a9ba-a9bb=14 ",
    "a9bc-a9bd=6 a9be-a9c0=14 a9e5=6 aa29-aa2e=6 aa2f-aa30=14 aa31-aa32=6 aa33-aa34=14 aa35-aa36=6 ",
    "aa43=6 aa4c=6 aa4d=14 aa7c=6 aab0=6 aab2-aab4=6 aab7-aab8=6 aabe-aabf=6 aac1=6 aaeb=14 ",
    "aaec-aaed=6 aaee-aaef=14 aaf5=14 aaf6=6 abe3-abe4=14 abe5=6 abe6-abe7=14 abe8=6 abe9-abea=14 ",
    "abec=14 abed=6 ac00=10 ac01-ac1b=11 ac1c=10 ac1d-ac37=11 ac38=10 ac39-ac53=11 ac54=10 ",
    "ac55-ac6f=11 ac70=10 ac71-ac8b=11 ac8c=10 ac8d-aca7=11 aca8=10 aca9-acc3=11 acc4=10 acc5-acdf=11 ",
    "ace0=10 ace1-acfb=11 acfc=10 acfd-ad17=11 ad18=10 ad19-ad33=11 ad34=10 ad35-ad4f=11 ad50=10 ",
    "ad51-ad6b=11 ad6c=10 ad6d-ad87=11 ad88=10 ad89-ada3=11 ada4=10 ada5-adbf=11 adc0=10 adc1-addb=11 ",
    "addc=10 addd-adf7=11 adf8=10 adf9-ae13=11 ae14=10 ae15-ae2f=11 ae30=10 ae31-ae4b=11 ae4c=10 ",
    "ae4d-ae67=11 ae68=10 ae69-ae83=11 ae84=10 ae85-ae9f=11 aea0=10 aea1-aebb=11 aebc=10 aebd-aed7=11 ",
    "aed8=10 aed9-aef3=11 aef4=10 aef5-af0f=11 af10=10 af11-af2b=11 af2c=10 af2d-af47=11 af48=10 ",
    "af49-af63=11 af64=10 af65-af7f=11 af80=10 af81-af9b=11 af9c=10 af9d-afb7=11 afb8=10 afb9-afd3=11 ",
    "afd4=10 afd5-afef=11 aff0=10 aff1-b00b=11 b00c=10 b00d-b027=11 b028=10 b029-b043=11 b044=10 ",
    "b045-b05f=11 b060=10 b061-b07b=11 b07c=10 b07d-b097=11 b098=10 b099-b0b3=11 b0b4=10 b0b5-b0cf=11 ",
    "b0d0=10 b0d1-b0eb=11 b0ec=10 b0ed-b107=11 b108=10 b109-b123=11 b124=10 b125-b13f=11 b140=10 ",
    "b141-b15b=11 b15c=10 b15d-b177=11 b178=10 b179-b193=11 b194=10 b195-b1af=11 b1b0=10 b1b1-b1cb=11 ",
    "b1cc=10 b1cd-b1e7=11 b1e8=10 b1e9-b203=11 b204=10 b205-b21f=11 b220=10 b221-b23b=11 b23c=10 ",
    "b23d-b257=11 b258=10 b259-b273=11 b274=10 b275-b28f=11 b290=10 b291-b2ab=11 b2ac=10 b2ad-b2c7=11 ",
    "b2c8=10 b2c9-b2e3=11 b2e4=10 b2e5-b2ff=11 b300=10 b301-b31b=11 b31c=10 b31d-b337=11 b338=10 ",
    "b339-b353=11 b354=10 b355-b36f=11 b370=10 b371-b38b=11 b38c=10 b38d-b3a7=11 b3a8=10 b3a9-b3c3=11 ",
    "b3c4=10 b3c5-b3df=11 b3e0=10 b3e1-b3fb=11 b3fc=10 b3fd-b417=11 b418=10 b419-b433=11 b434=10 ",
    "b435-b44f=11 b450=10 b451-b46b=11 b46c=10 b46d-b487=11 b488=10 b489-b4a3=11 b4a4=10 b4a5-b4bf=11 ",
    "b4c0=10 b4c1-b4db=11 b4dc=10 b4dd-b4f7=11 b4f8=10 b4f9-b513=11 b514=10 b515-b52f=11 b530=10 ",
    "b531-b54b=11 b54c=10 b54d-b567=11 b568=10 b569-b583=11 b584=10 b585-b59f=11 b5a0=10 b5a1-b5bb=11 ",
    "b5bc=10 b5bd-b5d7=11 b5d8=10 b5d9-b5f3=11 b5f4=10 b5f5-b60f=11 b610=10 b611-b62b=11 b62c=10 ",
    "b62d-b647=11 b648=10 b649-b663=11 b664=10 b665-b67f=11 b680=10 b681-b69b=11 b69c=10 b69d-b6b7=11 ",
    "b6b8=10 b6b9-b6d3=11 b6d4=10 b6d5-b6ef=11 b6f0=10 b6f1-b70b=11 b70c=10 b70d-b727=11 b728=10 ",
    "b729-b743=11 b744=10 b745-b75f=11 b760=10 b761-b77b=11 b77c=10 b77d-b797=11 b798=10 b799-b7b3=11 ",
    "b7b4=10 b7b5-b7cf=11 b7d0=10 b7d1-b7eb=11 b7ec=10 b7ed-b807=11 b808=10 b809-b823=11 b824=10 ",
    "b825-b83f=11 b840=10 b841-b85b=11 b85c=10 b85d-b877=11 b878=10 b879-b893=11 b894=10 b895-b8af=11 ",
    "b8b0=10 b8b1-b8cb=11 b8cc=10 b8cd-b8e7=11 b8e8=10 b8e9-b903=11 b904=10 b905-b91f=11 b920=10 ",
    "b921-b93b=11 b93c=10 b93d-b957=11 b958=10 b959-b973=11 b974=10 b975-b98f=11 b990=10 b991-b9ab=11 ",
    "b9ac=10 b9ad-b9c7=11 b9c8=10 b9c9-b9e3=11 b9e4=10 b9e5-b9ff=11 ba00=10 ba01-ba1b=11 ba1c=10 ",
    "ba1d-ba37=11 ba38=10 ba39-ba53=11 ba54=10 ba55-ba6f=11 ba70=10 ba71-ba8b=11 ba8c=10 ba8d-baa7=11 ",
    "baa8=10 baa9-bac3=11 bac4=10 bac5-badf=11 bae0=10 bae1-bafb=11 bafc=10 bafd-bb17=11 bb18=10 ",
    "bb19-bb33=11 bb34=10 bb35-bb4f=11 bb50=10 bb51-bb6b=11 bb6c=10 bb6d-bb87=11 bb88=10 bb89-bba3=11 ",
    "bba4=10 bba5-bbbf=11 bbc0=10 bbc1-bbdb=11 bbdc=10 bbdd-bbf7=11 bbf8=10 bbf9-bc13=11 bc14=10 ",
    "bc15-bc2f=11 bc30=10 bc31-bc4b=11 bc4c=10 bc4d-bc67=11 bc68=10 bc69-bc83=11 bc84=10 bc85-bc9f=11 ",
    "bca0=10 bca1-bcbb=11 bcbc=10 bcbd-bcd7=11 bcd8=10 bcd9-bcf3=11 bcf4=10 bcf5-bd0f=11 bd10=10 ",
    "bd11-bd2b=11 bd2c=10 bd2d-bd47=11 bd48=10 bd49-bd63=11 bd64=10 bd65-bd7f=11 bd80=10 bd81-bd9b=11 ",
    "bd9c=10 bd9d-bdb7=11 bdb8=10 bdb9-bdd3=11 bdd4=10 bdd5-bdef=11 bdf0=10 bdf1-be0b=11 be0c=10 ",
    "be0d-be27=11 be28=10 be29-be43=11 be44=10 be45-be5f=11 be60=10 be61-be7b=11 be7c=10 be7d-be97=11 ",
    "be98=10 be99-beb3=11 beb4=10 beb5-becf=11 bed0=10 bed1-beeb=11 beec=10 beed-bf07=11 bf08=10 ",
    "bf09-bf23=11 bf24=10 bf25-bf3f=11 bf40=10 bf41-bf5b=11 bf5c=10 bf5d-bf77=11 bf78=10 bf79-bf93=11 ",
    "bf94=10 bf95-bfaf=11 bfb0=10 bfb1-bfcb=11 bfcc=10 bfcd-bfe7=11 bfe8=10 bfe9-c003=11 c004=10 ",
    "c005-c01f=11 c020=10 c021-c03b=11 c03c=10 c03d-c057=11 c058=10 c059-c073=11 c074=10 c075-c08f=11 ",
    "c090=10 c091-c0ab=11 c0ac=10 c0ad-c0c7=11 c0c8=10 c0c9-c0e3=11 c0e4=10 c0e5-c0ff=11 c100=10 ",
    "c101-c11b=11 c11c=10 c11d-c137=11 c138=10 c139-c153=11 c154=10 c155-c16f=11 c170=10 c171-c18b=11 ",
    "c18c=10 c18d-c1a7=11 c1a8=10 c1a9-c1c3=11 c1c4=10 c1c5-c1df=11 c1e0=10 c1e1-c1fb=11 c1fc=10 ",
    "c1fd-c217=11 c218=10 c219-c233=11 c234=10 c235-c24f=11 c250=10 c251-c26b=11 c26c=10 c26d-c287=11 ",
    "c288=10 c289-c2a3=11 c2a4=10 c2a5-c2bf=11 c2c0=10 c2c1-c2db=11 c2dc=10 c2dd-c2f7=11 c2f8=10 ",
    "c2f9-c313=11 c314=10 c315-c32f=11 c330=10 c331-c34b=11 c34c=10 c34d-c367=11 c368=10 c369-c383=11 ",
    "c384=10 c385-c39f=11 c3a0=10 c3a1-c3bb=11 c3bc=10 c3bd-c3d7=11 c3d8=10 c3d9-c3f3=11 c3f4=10 ",
    "c3f5-c40f=11 c410=10 c411-c42b=11 c42c=10 c42d-c447=11 c448=10 c449-c463=11 c464=10 c465-c47f=11 ",
    "c480=10 c481-c49b=11 c49c=10 c49d-c4b7=11 c4b8=10 c4b9-c4d3=11 c4d4=10 c4d5-c4ef=11 c4f0=10 ",
    "c4f1-c50b=11 c50c=10 c50d-c527=11 c528=10 c529-c543=11 c544=10 c545-c55f=11 c560=10 c561-c57b=11 ",
    "c57c=10 c57d-c597=11 c598=10 c599-c5b3=11 c5b4=10 c5b5-c5cf=11 c5d0=10 c5d1-c5eb=11 c5ec=10 ",
    "c5ed-c607=11 c608=10 c609-c623=11 c624=10 c625-c63f=11 c640=10 c641-c65b=11 c65c=10 c65d-c677=11 ",
    "c678=10 c679-c693=11 c694=10 c695-c6af=11 c6b0=10 c6b1-c6cb=11 c6cc=10 c6cd-c6e7=11 c6e8=10 ",
    "c6e9-c703=11 c704=10 c705-c71f=11 c720=10 c721-c73b=11 c73c=10 c73d-c757=11 c758=10 c759-c773=11 ",
    "c774=10 c775-c78f=11 c790=10 c791-c7ab=11 c7ac=10 c7ad-c7c7=11 c7c8=10 c7c9-c7e3=11 c7e4=10 ",
    "c7e5-c7ff=11 c800=10 c801-c81b=11 c81c=10 c81d-c837=11 c838=10 c839-c853=11 c854=10 c855-c86f=11 ",
    "c870=10 c871-c88b=11 c88c=10 c88d-c8a7=11 c8a8=10 c8a9-c8c3=11 c8c4=10 c8c5-c8df=11 c8e0=10 ",
    "c8e1-c8fb=11 c8fc=10 c8fd-c917=11 c918=10 c919-c933=11 c934=10 c935-c94f=11 c950=10 c951-c96b=11 ",
    "c96c=10 c96d-c987=11 c988=10 c989-c9a3=11 c9a4=10 c9a5-c9bf=11 c9c0=10 c9c1-c9db=11 c9dc=10 ",
    "c9dd-c9f7=11 c9f8=10 c9f9-ca13=11 ca14=10 ca15-ca2f=11 ca30=10 ca31-ca4b=11 ca4c=10 ca4d-ca67=11 ",
    "ca68=10 ca69-ca83=11 ca84=10 ca85-ca9f=11 caa0=10 caa1-cabb=11 cabc=10 cabd-cad7=11 cad8=10 ",
    "cad9-caf3=11 caf4=10 caf5-cb0f=11 cb10=10 cb11-cb2b=11 cb2c=10 cb2d-cb47=11 cb48=10 cb49-cb63=11 ",
    "cb64=10 cb65-cb7f=11 cb80=10 cb81-cb9b=11 cb9c=10 cb9d-cbb7=11 cbb8=10 cbb9-cbd3=11 cbd4=10 ",
    "cbd5-cbef=11 cbf0=10 cbf1-cc0b=11 cc0c=10 cc0d-cc27=11 cc28=10 cc29-cc43=11 cc44=10 cc45-cc5f=11 ",
    "cc60=10 cc61-cc7b=11 cc7c=10 cc7d-cc97=11 cc98=10 cc99-ccb3=11 ccb4=10 ccb5-cccf=11 ccd0=10 ",
    "ccd1-cceb=11 ccec=10 cced-cd07=11 cd08=10 cd09-cd23=11 cd24=10 cd25-cd3f=11 cd40=10 cd41-cd5b=11 ",
    "cd5c=10 cd5d-cd77=11 cd78=10 cd79-cd93=11 cd94=10 cd95-cdaf=11 cdb0=10 cdb1-cdcb=11 cdcc=10 ",
    "cdcd-cde7=11 cde8=10 cde9-ce03=11 ce04=10 ce05-ce1f=11 ce20=10 ce21-ce3b=11 ce3c=10 ce3d-ce57=11 ",
    "ce58=10 ce59-ce73=11 ce74=10 ce75-ce8f=11 ce90=10 ce91-ceab=11 ceac=10 cead-cec7=11 cec8=10 ",
    "cec9-cee3=11 cee4=10 cee5-ceff=11 cf00=10 cf01-cf1b=11 cf1c=10 cf1d-cf37=11 cf38=10 cf39-cf53=11 ",
    "cf54=10 cf55-cf6f=11 cf70=10 cf71-cf8b=11 cf8c=10 cf8d-cfa7=11 cfa8=10 cfa9-cfc3=11 cfc4=10 ",
    "cfc5-cfdf=11 cfe0=10 cfe1-cffb=11 cffc=10 cffd-d017=11 d018=10 d019-d033=11 d034=10 d035-d04f=11 ",
    "d050=10 d051-d06b=11 d06c=10 d06d-d087=11 d088=10 d089-d0a3=11 d0a4=10 d0a5-d0bf=11 d0c0=10 ",
    "d0c1-d0db=11 d0dc=10 d0dd-d0f7=11 d0f8=10 d0f9-d113=11 d114=10 d115-d12f=11 d130=10 d131-d14b=11 ",
    "d14c=10 d14d-d167=11 d168=10 d169-d183=11 d184=10 d185-d19f=11 d1a0=10 d1a1-d1bb=11 d1bc=10 ",
    "d1bd-d1d7=11 d1d8=10 d1d9-d1f3=11 d1f4=10 d1f5-d20f=11 d210=10 d211-d22b=11 d22c=10 d22d-d247=11 ",
    "d248=10 d249-d263=11 d264=10 d265-d27f=11 d280=10 d281-d29b=11 d29c=10 d29d-d2b7=11 d2b8=10 ",
    "d2b9-d2d3=11 d2d4=10 d2d5-d2ef=11 d2f0=10 d2f1-d30b=11 d30c=10 d30d-d327=11 d328=10 d329-d343=11 ",
    "d344=10 d345-d35f=11 d360=10 d361-d37b=11 d37c=10 d37d-d397=11 d398=10 d399-d3b3=11 d3b4=10 ",
    "d3b5-d3cf=11 d3d0=10 d3d1-d3eb=11 d3ec=10 d3ed-d407=11 d408=10 d409-d423=11 d424=10 d425-d43f=11 ",
    "d440=10 d441-d45b=11 d45c=10 d45d-d477=11 d478=10 d479-d493=11 d494=10 d495-d4af=11 d4b0=10 ",
    "d4b1-d4cb=11 d4cc=10 d4cd-d4e7=11 d4e8=10 d4e9-d503=11 d504=10 d505-d51f=11 d520=10 d521-d53b=11 ",
    "d53c=10 d53d-d557=11 d558=10 d559-d573=11 d574=10 d575-d58f=11 d590=10 d591-d5ab=11 d5ac=10 ",
    "d5ad-d5c7=11 d5c8=10 d5c9-d5e3=11 d5e4=10 d5e5-d5ff=11 d600=10 d601-d61b=11 d61c=10 d61d-d637=11 ",
    "d638=10 d639-d653=11 d654=10 d655-d66f=11 d670=10 d671-d68b=11 d68c=10 d68d-d6a7=11 d6a8=10 ",
    "d6a9-d6c3=11 d6c4=10 d6c5-d6df=11 d6e0=10 d6e1-d6fb=11 d6fc=10 d6fd-d717=11 d718=10 d719-d733=11 ",
    "d734=10 d735-d74f=11 d750=10 d751-d76b=11 d76c=10 d76d-d787=11 d788=10 d789-d7a3=11 d7b0-d7c6=16 ",
    "d7cb-d7fb=15 fb1e=6 fe00-fe0f=6 fe20-fe2f=6 feff=1 ff9e-ff9f=6 fff0-fffb=1 101fd=6 102e0=6 ",
    "10376-1037a=6 10a01-10a03=6 10a05-10a06=6 10a0c-10a0f=6 10a38-10a3a=6 10a3f=6 10ae5-10ae6=6 ",
    "10d24-10d27=6 10eab-10eac=6 10efd-10eff=6 10f46-10f50=6 10f82-10f85=6 11000=14 11001=6 11002=14 ",
    "11038-11046=6 11070=6 11073-11074=6 1107f-11081=6 11082=14 110b0-110b2=14 110b3-110b6=6 ",
    "110b7-110b8=14 110b9-110ba=6 110bd=12 110c2=6 110cd=12 11100-11102=6 11127-1112b=6 1112c=14 ",
    "1112d-11134=6 11145-11146=14 11173=6 11180-11181=6 11182=14 111b3-111b5=14 111b6-111be=6 ",
    "111bf-111c0=14 111c2-111c3=12 111c9-111cc=6 111ce=14 111cf=6 1122c-1122e=14 1122f-11231=6 ",
    "11232-11233=14 11234=6 11235=14 11236-11237=6 1123e=6 11241=6 112df=6 112e0-112e2=14 ",
    "112e3-112ea=6 11300-11301=6 11302-11303=14 1133b-1133c=6 1133e=6 1133f=14 11340=6 11341-11344=14 ",
    "11347-11348=14 1134b-1134d=14 11357=6 11362-11363=14 11366-1136c=6 11370-11374=6 11435-11437=14 ",
    "11438-1143f=6 11440-11441=14 11442-11444=6 11445=14 11446=6 1145e=6 114b0=6 114b1-114b2=14 ",
    "114b3-114b8=6 114b9=14 114ba=6 114bb-114bc=14 114bd=6 114be=14 114bf-114c0=6 114c1=14 ",
    "114c2-114c3=6 115af=6 115b0-115b1=14 115b2-115b5=6 115b8-115bb=14 115bc-115bd=6 115be=14 ",
    "115bf-115c0=6 115dc-115dd=6 11630-11632=14 11633-1163a=6 1163b-1163c=14 1163d=6 1163e=14 ",
    "1163f-11640=6 116ab=6 116ac=14 116ad=6 116ae-116af=14 116b0-116b5=6 116b6=14 116b7=6 ",
    "1171d-1171f=6 11722-11725=6 11726=14 11727-1172b=6 1182c-1182e=14 1182f-11837=6 11838=14 ",
    "11839-1183a=6 11930=6 11931-11935=14 11937-11938=14 1193b-1193c=6 1193d=14 1193e=6 1193f=12 ",
    "11940=14 11941=12 11942=14 11943=6 119d1-119d3=14 119d4-119d7=6 119da-119db=6 119dc-119df=14 ",
    "119e0=6 119e4=14 11a01-11a0a=6 11a33-11a38=6 11a39=14 11a3a=12 11a3b-11a3e=6 11a47=6 ",
    "11a51-11a56=6 11a57-11a58=14 11a59-11a5b=6 11a84-11a89=12 11a8a-11a96=6 11a97=14 11a98-11a99=6 ",
    "11c2f=14 11c30-11c36=6 11c38-11c3d=6 11c3e=14 11c3f=6 11c92-11ca7=6 11ca9=14 11caa-11cb0=6 ",
    "11cb1=14 11cb2-11cb3=6 11cb4=14 11cb5-11cb6=6 11d31-11d36=6 11d3a=6 11d3c-11d3d=6 11d3f-11d45=6 ",
    "11d46=12 11d47=6 11d8a-11d8e=14 11d90-11d91=6 11d93-11d94=14 11d95=6 11d96=14 11d97=6 ",
    "11ef3-11ef4=6 11ef5-11ef6=14 11f00-11f01=6 11f02=12 11f03=14 11f34-11f35=14 11f36-11f3a=6 ",
    "11f3e-11f3f=14 11f40=6 11f41=14 11f42=6 13430-1343f=1 13440=6 13447-13455=6 16af0-16af4=6 ",
    "16b30-16b36=6 16f4f=6 16f51-16f87=14 16f8f-16f92=6 16fe4=6 16ff0-16ff1=14 1bc9d-1bc9e=6 ",
    "1bca0-1bca3=1 1cf00-1cf2d=6 1cf30-1cf46=6 1d165=6 1d166=14 1d167-1d169=6 1d16d=14 1d16e-1d172=6 ",
    "1d173-1d17a=1 1d17b-1d182=6 1d185-1d18b=6 1d1aa-1d1ad=6 1d242-1d244=6 1da00-1da36=6 ",
    "1da3b-1da6c=6 1da75=6 1da84=6 1da9b-1da9f=6 1daa1-1daaf=6 1e000-1e006=6 1e008-1e018=6 ",
    "1e01b-1e021=6 1e023-1e024=6 1e026-1e02a=6 1e08f=6 1e130-1e136=6 1e2ae=6 1e2ec-1e2ef=6 ",
    "1e4ec-1e4ef=6 1e8d0-1e8d6=6 1e944-1e94a=6 1f1e6-1f1ff=13 1f3fb-1f3ff=6 e0000-e001f=1 ",
    "e0020-e007f=6 e0080-e00ff=1 e0100-e01ef=6 e01f0-e0fff=1"]

/-- The long names of the sentence break values, numbered from 1. -/
def sentenceBreakNames : List String :=
  ["ATerm", "Close", "CR", "Extend", "Format", "OLetter", "LF", "Lower", "Numeric", "SContinue", "Sep", "Sp", "STerm", "Upper", "Other"]

/-- Loose aliases of the sentence break values. -/
def sentenceBreakAliases : String :=
  String.join [
    "at=ATerm aterm=ATerm cl=Close close=Close cr=CR ex=Extend extend=Extend fo=Format format=Format ",
    "le=OLetter lf=LF lo=Lower lower=Lower nu=Numeric numeric=Numeric oletter=OLetter other=Other ",
    "sc=SContinue scontinue=SContinue se=Sep sep=Sep sp=Sp st=STerm sterm=STerm up=Upper upper=Upper ",
    "xx=Other"]

/-- The sentence break values other than `Other`. -/
def sentenceBreakText : String :=
  String.join [
    "9=12 a=7 b-c=12 d=3 20=12 21=13 22=2 27-29=2 2c-2d=10 2e=1 30-39=9 3a=10 3f=13 41-5a=14 5b=2 ",
    "5d=2 61-7a=8 7b=2 7d=2 85=11 a0=12 aa=8 ab=2 ad=5 b5=8 ba=8 bb=2 c0-d6=14 d8-de=14 df-f6=8 ",
    "f8-ff=8 100=14 101=8 102=14 103=8 104=14 105=8 106=14 107=8 108=14 109=8 10a=14 10b=8 10c=14 ",
    "10d=8 10e=14 10f=8 110=14 111=8 112=14 113=8 114=14 115=8 116=14 117=8 118=14 119=8 11a=14 11b=8 ",
    "11c=14 11d=8 11e=14 11f=8 120=14 121=8 122=14 123=8 124=14 125=8 126=14 127=8 128=14 129=8 ",
    "12a=14 12b=8 12c=14 12d=8 12e=14 12f=8 130=14 131=8 132=14 133=8 134=14 135=8 136=14 137-138=8 ",
    "139=14 13a=8 13b=14 13c=8 13d=14 13e=8 13f=14 140=8 141=14 142=8 143=14 144=8 145=14 146=8 ",
    "147=14 148-149=8 14a=14 14b=8 14c=14 14d=8 14e=14 14f=8 150=14 151=8 152=14 153=8 154=14 155=8 ",
    "156=14 157=8 158=14 159=8 15a=14 15b=8 15c=14 15d=8 15e=14 15f=8 160=14 161=8 162=14 163=8 ",
    "164=14 165=8 166=14 167=8 168=14 169=8 16a=14 16b=8 16c=14 16d=8 16e=14 16f=8 170=14 171=8 ",
    "172=14 173=8 174=14 175=8 176=14 177=8 178-179=14 17a=8 17b=14 17c=8 17d=14 17e-180=8 181-182=14 ",
    "183=8 184=14 185=8 186-187=14 188=8 189-18b=14 18c-18d=8 18e-191=14 192=8 193-194=14 195=8 ",
    "196-198=14 199-19b=8 19c-19d=14 19e=8 19f-1a0=14 1a1=8 1a2=14 1a3=8 1a4=14 1a5=8 1a6-1a7=14 ",
    "1a8=8 1a9=14 1aa-1ab=8 1ac=14 1ad=8 1ae-1af=14 1b0=8 1b1-1b3=14 1b4=8 1b5=14 1b6=8 1b7-1b8=14 ",
    "1b9-1ba=8 1bb=6 1bc=14 1bd-1bf=8 1c0-1c3=6 1c4-1c5=14 1c6=8 1c7-1c8=14 1c9=8 1ca-1cb=14 1cc=8 ",
    "1cd=14 1ce=8 1cf=14 1d0=8 1d1=14 1d2=8 1d3=14 1d4=8 1d5=14 1d6=8 1d7=14 1d8=8 1d9=14 1da=8 ",
    "1db=14 1dc-1dd=8 1de=14 1df=8 1e0=14 1e1=8 1e2=14 1e3=8 1e4=14 1e5=8 1e6=14 1e7=8 1e8=14 1e9=8 ",
    "1ea=14 1eb=8 1ec=14 1ed=8 1ee=14 1ef-1f0=8 1f1-1f2=14 1f3=8 1f4=14 1f5=8 1f6-1f8=14 1f9=8 1fa=14 ",
    "1fb=8 1fc=14 1fd=8 1fe=14 1ff=8 200=14 201=8 202=14 203=8 204=14 205=8 206=14 207=8 208=14 209=8 ",
    "20a=14 20b=8 20c=14 20d=8 20e=14 20f=8 210=14 211=8 212=14 213=8 214=14 215=8 216=14 217=8 ",
    "218=14 219=8 21a=14 21b=8 21c=14 21d=8 21e=14 21f=8 220=14 221=8 222=14 223=8 224=14 225=8 ",
    "226=14 227=8 228=14 229=8 22a=14 22b=8 22c=14 22d=8 22e=14 22f=8 230=14 231=8 232=14 233-239=8 ",
    "23a-23b=14 23c=8 23d-23e=14 23f-240=8 241=14 242=8 243-246=14 247=8 248=14 249=8 24a=14 24b=8 ",
    "24c=14 24d=8 24e=14 24f-293=8 294=6 295-2b8=8 2b9-2bf=6 2c0-2c1=8 2c6-2d1=6 2e0-2e4=8 2ec=6 ",
    "2ee=6 300-36f=4 370=14 371=8 372=14 373=8 374=6 376=14 377=8 37a-37d=8 37f=14 386=14 388-38a=14 ",
    "38c=14 38e-38f=14 390=8 391-3a1=14 3a3-3ab=14 3ac-3ce=8 3cf=14 3d0-3d1=8 3d2-3d4=14 3d5-3d7=8 ",
    "3d8=14 3d9=8 3da=14 3db=8 3dc=14 3dd=8 3de=14 3df=8 3e0=14 3e1=8 3e2=14 3e3=8 3e4=14 3e5=8 ",
    "3e6=14 3e7=8 3e8=14 3e9=8 3ea=14 3eb=8 3ec=14 3ed=8 3ee=14 3ef-3f3=8 3f4=14 3f5=8 3f7=14 3f8=8 ",
    "3f9-3fa=14 3fb-3fc=8 3fd-42f=14 430-45f=8 460=14 461=8 462=14 463=8 464=14 465=8 466=14 467=8 ",
    "468=14 469=8 46a=14 46b=8 46c=14 46d=8 46e=14 46f=8 470=14 471=8 472=14 473=8 474=14 475=8 ",
    "476=14 477=8 478=14 479=8 47a=14 47b=8 47c=14 47d=8 47e=14 47f=8 480=14 481=8 483-489=4 48a=14 ",
    "48b=8 48c=14 48d=8 48e=14 48f=8 490=14 491=8 492=14 493=8 494=14 495=8 496=14 497=8 498=14 499=8 ",
    "49a=14 49b=8 49c=14 49d=8 49e=14 49f=8 4a0=14 4a1=8 4a2=14 4a3=8 4a4=14 4a5=8 4a6=14 4a7=8 ",
    "4a8=14 4a9=8 4aa=14 4ab=8 4ac=14 4ad=8 4ae=14 4af=8 4b0=14 4b1=8 4b2=14 4b3=8 4b4=14 4b5=8 ",
    "4b6=14 4b7=8 4b8=14 4b9=8 4ba=14 4bb=8 4bc=14 4bd=8 4be=14 4bf=8 4c0-4c1=14 4c2=8 4c3=14 4c4=8 ",
    "4c5=14 4c6=8 4c7=14 4c8=8 4c9=14 4ca=8 4cb=14 4cc=8 4cd=14 4ce-4cf=8 4d0=14 4d1=8 4d2=14 4d3=8 ",
    "4d4=14 4d5=8 4d6=14 4d7=8 4d8=14 4d9=8 4da=14 4db=8 4dc=14 4dd=8 4de=14 4df=8 4e0=14 4e1=8 ",
    "4e2=14 4e3=8 4e4=14 4e5=8 4e6=14 4e7=8 4e8=14 4e9=8 4ea=14 4eb=8 4ec=14 4ed=8 4ee=14 4ef=8 ",
    "4f0=14 4f1=8 4f2=14 4f3=8 4f4=14 4f5=8 4f6=14 4f7=8 4f8=14 4f9=8 4fa=14 4fb=8 4fc=14 4fd=8 ",
    "4fe=14 4ff=8 500=14 501=8 502=14 503=8 504=14 505=8 506=14 507=8 508=14 509=8 50a=14 50b=8 ",
    "50c=14 50d=8 50e=14 50f=8 510=14 511=8 512=14 513=8 514=14 515=8 516=14 517=8 518=14 519=8 ",
    "51a=14 51b=8 51c=14 51d=8 51e=14 51f=8 520=14 521=8 522=14 523=8 524=14 525=8 526=14 527=8 ",
    "528=14 529=8 52a=14 52b=8 52c=14 52d=8 52e=14 52f=8 531-556=14 559=6 55d=10 560-588=8 589=13 ",
    "591-5bd=4 5bf=4 5c1-5c2=4 5c4-5c5=4 5c7=4 5d0-5ea=6 5ef-5f3=6 600-605=5 60c-60d=10 610-61a=4 ",
    "61c=5 61d-61f=13 620-64a=6 64b-65f=4 660-669=9 66b-66c=9 66e-66f=6 670=4 671-6d3=6 6d4=13 6d5=6 ",
    "6d6-6dc=4 6dd=5 6df-6e4=4 6e5-6e6=6 6e7-6e8=4 6ea-6ed=4 6ee-6ef=6 6f0-6f9=9 6fa-6fc=6 6ff=6 ",
    "700-702=13 70f=5 710=6 711=4 712-72f=6 730-74a=4 74d-7a5=6 7a6-7b0=4 7b1=6 7c0-7c9=9 7ca-7ea=6 ",
    "7eb-7f3=4 7f4-7f5=6 7f8=10 7f9=13 7fa=6 7fd=4 800-815=6 816-819=4 81a=6 81b-823=4 824=6 ",
    "825-827=4 828=6 829-82d=4 837=13 839=13 83d-83e=13 840-858=6 859-85b=4 860-86a=6 870-887=6 ",
    "889-88e=6 890-891=5 898-89f=4 8a0-8c9=6 8ca-8e1=4 8e2=5 8e3-903=4 904-939=6 93a-93c=4 93d=6 ",
    "93e-94f=4 950=6 951-957=4 958-961=6 962-963=4 964-965=13 966-96f=9 971-980=6 981-983=4 985-98c=6 ",
    "98f-990=6 993-9a8=6 9aa-9b0=6 9b2=6 9b6-9b9=6 9bc=4 9bd=6 9be-9c4=4 9c7-9c8=4 9cb-9cd=4 9ce=6 ",
    "9d7=4 9dc-9dd=6 9df-9e1=6 9e2-9e3=4 9e6-9ef=9 9f0-9f1=6 9fc=6 9fe=4 a01-a03=4 a05-a0a=6 ",
    "a0f-a10=6 a13-a28=6 a2a-a30=6 a32-a33=6 a35-a36=6 a38-a39=6 a3c=4 a3e-a42=4 a47-a48=4 a4b-a4d=4 ",
    "a51=4 a59-a5c=6 a5e=6 a66-a6f=9 a70-a71=4 a72-a74=6 a75=4 a81-a83=4 a85-a8d=6 a8f-a91=6 ",
    "a93-aa8=6 aaa-ab0=6 ab2-ab3=6 ab5-ab9=6 abc=4 abd=6 abe-ac5=4 ac7-ac9=4 acb-acd=4 ad0=6 ",
    "ae0-ae1=6 ae2-ae3=4 ae6-aef=9 af9=6 afa-aff=4 b01-b03=4 b05-b0c=6 b0f-b10=6 b13-b28=6 b2a-b30=6 ",
    "b32-b33=6 b35-b39=6 b3c=4 b3d=6 b3e-b44=4 b47-b48=4 b4b-b4d=4 b55-b57=4 b5c-b5d=6 b5f-b61=6 ",
    "b62-b63=4 b66-b6f=9 b71=6 b82=4 b83=6 b85-b8a=6 b8e-b90=6 b92-b95=6 b99-b9a=6 b9c=6 b9e-b9f=6 ",
    "ba3-ba4=6 ba8-baa=6 bae-bb9=6 bbe-bc2=4 bc6-bc8=4 bca-bcd=4 bd0=6 bd7=4 be6-bef=9 c00-c04=4 ",
    "c05-c0c=6 c0e-c10=6 c12-c28=6 c2a-c39=6 c3c=4 c3d=6 c3e-c44=4 c46-c48=4 c4a-c4d=4 c55-c56=4 ",
    "c58-c5a=6 c5d=6 c60-c61=6 c62-c63=4 c66-c6f=9 c80=6 c81-c83=4 c85-c8c=6 c8e-c90=6 c92-ca8=6 ",
    "caa-cb3=6 cb5-cb9=6 cbc=4 cbd=6 cbe-cc4=4 cc6-cc8=4 cca-ccd=4 cd5-cd6=4 cdd-cde=6 ce0-ce1=6 ",
    "ce2-ce3=4 ce6-cef=9 cf1-cf2=6 cf3=4 d00-d03=4 d04-d0c=6 d0e-d10=6 d12-d3a=6 d3b-d3c=4 d3d=6 ",
    "d3e-d44=4 d46-d48=4 d4a-d4d=4 d4e=6 d54-d56=6 d57=4 d5f-d61=6 d62-d63=4 d66-d6f=9 d7a-d7f=6 ",
    "d81-d83=4 d85-d96=6 d9a-db1=6 db3-dbb=6 dbd=6 dc0-dc6=6 dca=4 dcf-dd4=4 dd6=4 dd8-ddf=4 ",
    "de6-def=9 df2-df3=4 e01-e30=6 e31=4 e32-e33=6 e34-e3a=4 e40-e46=6 e47-e4e=4 e50-e59=9 e81-e82=6 ",
    "e84=6 e86-e8a=6 e8c-ea3=6 ea5=6 ea7-eb0=6 eb1=4 eb2-eb3=6 eb4-ebc=4 ebd=6 ec0-ec4=6 ec6=6 ",
    "ec8-ece=4 ed0-ed9=9 edc-edf=6 f00=6 f18-f19=4 f20-f29=9 f35=4 f37=4 f39=4 f3a-f3d=2 f3e-f3f=4 ",
    "f40-f47=6 f49-f6c=6 f71-f84=4 f86-f87=4 f88-f8c=6 f8d-f97=4 f99-fbc=4 fc6=4 1000-102a=6 ",
    "102b-103e=4 103f=6 1040-1049=9 104a-104b=13 1050-1055=6 1056-1059=4 105a-105d=6 105e-1060=4 ",
    "1061=6 1062-1064=4 1065-1066=6 1067-106d=4 106e-1070=6 1071-1074=4 1075-1081=6 1082-108d=4 ",
    "108e=6 108f=4 1090-1099=9 109a-109d=4 10a0-10c5=14 10c7=14 10cd=14 10d0-10fa=6 10fc=8 ",
    "10fd-1248=6 124a-124d=6 1250-1256=6 1258=6 125a-125d=6 1260-1288=6 128a-128d=6 1290-12b0=6 ",
    "12b2-12b5=6 12b8-12be=6 12c0=6 12c2-12c5=6 12c8-12d6=6 12d8-1310=6 1312-1315=6 1318-135a=6 ",
    "135d-135f=4 1362=13 1367-1368=13 1380-138f=6 13a0-13f5=14 13f8-13fd=8 1401-166c=6 166e=13 ",
    "166f-167f=6 1680=12 1681-169a=6 169b-169c=2 16a0-16ea=6 16ee-16f8=6 1700-1711=6 1712-1715=4 ",
    "171f-1731=6 1732-1734=4 1735-1736=13 1740-1751=6 1752-1753=4 1760-176c=6 176e-1770=6 1772-1773=4 ",
    "1780-17b3=6 17b4-17d3=4 17d7=6 17dc=6 17dd=4 17e0-17e9=9 1802=10 1803=13 1808=10 1809=13 ",
    "180b-180d=4 180e=5 180f=4 1810-1819=9 1820-1878=6 1880-1884=6 1885-1886=4 1887-18a8=6 18a9=4 ",
    "18aa=6 18b0-18f5=6 1900-191e=6 1920-192b=4 1930-193b=4 1944-1945=13 1946-194f=9 1950-196d=6 ",
    "1970-1974=6 1980-19ab=6 19b0-19c9=6 19d0-19d9=9 1a00-1a16=6 1a17-1a1b=4 1a20-1a54=6 1a55-1a5e=4 ",
    "1a60-1a7c=4 1a7f=4 1a80-1a89=9 1a90-1a99=9 1aa7=6 1aa8-1aab=13 1ab0-1ace=4 1b00-1b04=4 ",
    "1b05-1b33=6 1b34-1b44=4 1b45-1b4c=6 1b50-1b59=9 1b5a-1b5b=13 1b5e-1b5f=13 1b6b-1b73=4 ",
    "1b7d-1b7e=13 1b80-1b82=4 1b83-1ba0=6 1ba1-1bad=4 1bae-1baf=6 1bb0-1bb9=9 1bba-1be5=6 1be6-1bf3=4 ",
    "1c00-1c23=6 1c24-1c37=4 1c3b-1c3c=13 1c40-1c49=9 1c4d-1c4f=6 1c50-1c59=9 1c5a-1c7d=6 ",
    "1c7e-1c7f=13 1c80-1c88=8 1c90-1cba=6 1cbd-1cbf=6 1cd0-1cd2=4 1cd4-1ce8=4 1ce9-1cec=6 1ced=4 ",
    "1cee-1cf3=6 1cf4=4 1cf5-1cf6=6 1cf7-1cf9=4 1cfa=6 1d00-1dbf=8 1dc0-1dff=4 1e00=14 1e01=8 1e02=14 ",
    "1e03=8 1e04=14 1e05=8 1e06=14 1e07=8 1e08=14 1e09=8 1e0a=14 1e0b=8 1e0c=14 1e0d=8 1e0e=14 1e0f=8 ",
    "1e10=14 1e11=8 1e12=14 1e13=8 1e14=14 1e15=8 1e16=14 1e17=8 1e18=14 1e19=8 1e1a=14 1e1b=8 ",
    "1e1c=14 1e1d=8 1e1e=14 1e1f=8 1e20=14 1e21=8 1e22=14 1e23=8 1e24=14 1e25=8 1e26=14 1e27=8 ",
    "1e28=14 1e29=8 1e2a=14 1e2b=8 1e2c=14 1e2d=8 1e2e=14 1e2f=8 1e30=14 1e31=8 1e32=14 1e33=8 ",
    "1e34=14 1e35=8 1e36=14 1e37=8 1e38=14 1e39=8 1e3a=14 1e3b=8 1e3c=14 1e3d=8 1e3e=14 1e3f=8 ",
    "1e40=14 1e41=8 1e42=14 1e43=8 1e44=14 1e45=8 1e46=14 1e47=8 1e48=14 1e49=8 1e4a=14 1e4b=8 ",
    "1e4c=14 1e4d=8 1e4e=14 1e4f=8 1e50=14 1e51=8 1e52=14 1e53=8 1e54=14 1e55=8 1e56=14 1e57=8 ",
    "1e58=14 1e59=8 1e5a=14 1e5b=8 1e5c=14 1e5d=8 1e5e=14 1e5f=8 1e60=14 1e61=8 1e62=14 1e63=8 ",
    "1e64=14 1e65=8 1e66=14 1e67=8 1e68=14 1e69=8 1e6a=14 1e6b=8 1e6c=14 1e6d=8 1e6e=14 1e6f=8 ",
    "1e70=14 1e71=8 1e72=14 1e73=8 1e74=14 1e75=8 1e76=14 1e77=8 1e78=14 1e79=8 1e7a=14 1e7b=8 ",
    "1e7c=14 1e7d=8 1e7e=14 1e7f=8 1e80=14 1e81=8 1e82=14 1e83=8 1e84=14 1e85=8 1e86=14 1e87=8 ",
    "1e88=14 1e89=8 1e8a=14 1e8b=8 1e8c=14 1e8d=8 1e8e=14 1e8f=8 1e90=14 1e91=8 1e92=14 1e93=8 ",
    "1e94=14 1e95-1e9d=8 1e9e=14 1e9f=8 1ea0=14 1ea1=8 1ea2=14 1ea3=8 1ea4=14 1ea5=8 1ea6=14 1ea7=8 ",
    "1ea8=14 1ea9=8 1eaa=14 1eab=8 1eac=14 1ead=8 1eae=14 1eaf=8 1eb0=14 1eb1=8 1eb2=14 1eb3=8 ",
    "1eb4=14 1eb5=8 1eb6=14 1eb7=8 1eb8=14 1eb9=8 1eba=14 1ebb=8 1ebc=14 1ebd=8 1ebe=14 1ebf=8 ",
    "1ec0=14 1ec1=8 1ec2=14 1ec3=8 1ec4=14 1ec5=8 1ec6=14 1ec7=8 1ec8=14 1ec9=8 1eca=14 1ecb=8 ",
    "1ecc=14 1ecd=8 1ece=14 1ecf=8 1ed0=14 1ed1=8 1ed2=14 1ed3=8 1ed4=14 1ed5=8 1ed6=14 1ed7=8 ",
    "1ed8=14 1ed9=8 1eda=14 1edb=8 1edc=14 1edd=8 1ede=14 1edf=8 1ee0=14 1ee1=8 1ee2=14 1ee3=8 ",
    "1ee4=14 1ee5=8 1ee6=14 1ee7=8 1ee8=14 1ee9=8 1eea=14 1eeb=8 1eec=14 1eed=8 1eee=14 1eef=8 ",
    "1ef0=14 1ef1=8 1ef2=14 1ef3=8 1ef4=14 1ef5=8 1ef6=14 1ef7=8 1ef8=14 1ef9=8 1efa=14 1efb=8 ",
    "1efc=14 1efd=8 1efe=14 1eff-1f07=8 1f08-1f0f=14 1f10-1f15=8 1f18-1f1d=14 1f20-1f27=8 ",
    "1f28-1f2f=14 1f30-1f37=8 1f38-1f3f=14 1f40-1f45=8 1f48-1f4d=14 1f50-1f57=8 1f59=14 1f5b=14 ",
    "1f5d=14 1f5f=14 1f60-1f67=8 1f68-1f6f=14 1f70-1f7d=8 1f80-1f87=8 1f88-1f8f=14 1f90-1f97=8 ",
    "1f98-1f9f=14 1fa0-1fa7=8 1fa8-1faf=14 1fb0-1fb4=8 1fb6-1fb7=8 1fb8-1fbc=14 1fbe=8 1fc2-1fc4=8 ",
    "1fc6-1fc7=8 1fc8-1fcc=14 1fd0-1fd3=8 1fd6-1fd7=8 1fd8-1fdb=14 1fe0-1fe7=8 1fe8-1fec=14 ",
    "1ff2-1ff4=8 1ff6-1ff7=8 1ff8-1ffc=14 2000-200a=12 200b=5 200c-200d=4 200e-200f=5 2013-2014=10 ",
    "2018-201f=2 2024=1 2028-2029=11 202a-202e=5 202f=12 2039-203a=2 203c-203d=13 2045-2046=2 ",
    "2047-2049=13 205f=12 2060-2064=5 2066-206f=5 2071=8 207d-207e=2 207f=8 208d-208e=2 2090-209c=8 ",
    "20d0-20f0=4 2102=14 2107=14 210a=8 210b-210d=14 210e-210f=8 2110-2112=14 2113=8 2115=14 ",
    "2119-211d=14 2124=14 2126=14 2128=14 212a-212d=14 212f=8 2130-2133=14 2134=8 2135-2138=6 2139=8 ",
    "213c-213d=8 213e-213f=14 2145=14 2146-2149=8 214e=8 2160-216f=14 2170-217f=8 2180-2182=6 2183=14 ",
    "2184=8 2185-2188=6 2308-230b=2 2329-232a=2 24b6-24cf=14 24d0-24e9=8 275b-2760=2 2768-2775=2 ",
    "27c5-27c6=2 27e6-27ef=2 2983-2998=2 29d8-29db=2 29fc-29fd=2 2c00-2c2f=14 2c30-2c5f=8 2c60=14 ",
    "2c61=8 2c62-2c64=14 2c65-2c66=8 2c67=14 2c68=8 2c69=14 2c6a=8 2c6b=14 2c6c=8 2c6d-2c70=14 2c71=8 ",
    "2c72=14 2c73-2c74=8 2c75=14 2c76-2c7d=8 2c7e-2c80=14 2c81=8 2c82=14 2c83=8 2c84=14 2c85=8 ",
    "2c86=14 2c87=8 2c88=14 2c89=8 2c8a=14 2c8b=8 2c8c=14 2c8d=8 2c8e=14 2c8f=8 2c90=14 2c91=8 ",
    "2c92=14 2c93=8 2c94=14 2c95=8 2c96=14 2c97=8 2c98=14 2c99=8 2c9a=14 2c9b=8 2c9c=14 2c9d=8 ",
    "2c9e=14 2c9f=8 2ca0=14 2ca1=8 2ca2=14 2ca3=8 2ca4=14 2ca5=8 2ca6=14 2ca7=8 2ca8=14 2ca9=8 ",
    "2caa=14 2cab=8 2cac=14 2cad=8 2cae=14 2caf=8 2cb0=14 2cb1=8 2cb2=14 2cb3=8 2cb4=14 2cb5=8 ",
    "2cb6=14 2cb7=8 2cb8=14 2cb9=8 2cba=14 2cbb=8 2cbc=14 2cbd=8 2cbe=14 2cbf=8 2cc0=14 2cc1=8 ",
    "2cc2=14 2cc3=8 2cc4=14 2cc5=8 2cc6=14 2cc7=8 2cc8=14 2cc9=8 2cca=14 2ccb=8 2ccc=14 2ccd=8 ",
    "2cce=14 2ccf=8 2cd0=14 2cd1=8 2cd2=14 2cd3=8 2cd4=14 2cd5=8 2cd6=14 2cd7=8 2cd8=14 2cd9=8 ",
    "2cda=14 2cdb=8 2cdc=14 2cdd=8 2cde=14 2cdf=8 2ce0=14 2ce1=8 2ce2=14 2ce3-2ce4=8 2ceb=14 2cec=8 ",
    "2ced=14 2cee=8 2cef-2cf1=4 2cf2=14 2cf3=8 2d00-2d25=8 2d27=8 2d2d=8 2d30-2d67=6 2d6f=6 2d7f=4 ",
    "2d80-2d96=6 2da0-2da6=6 2da8-2dae=6 2db0-2db6=6 2db8-2dbe=6 2dc0-2dc6=6 2dc8-2dce=6 2dd0-2dd6=6 ",
    "2dd8-2dde=6 2de0-2dff=4 2e00-2e0d=2 2e1c-2e1d=2 2e20-2e29=2 2e2e=13 2e2f=6 2e3c=13 2e42=2 ",
    "2e53-2e54=13 2e55-2e5c=2 3000=12 3001=10 3002=13 3005-3007=6 3008-3011=2 3014-301b=2 301d-301f=2 ",
    "3021-3029=6 302a-302f=4 3031-3035=6 3038-303c=6 3041-3096=6 3099-309a=4 309d-309f=6 30a1-30fa=6 ",
    "30fc-30ff=6 3105-312f=6 3131-318e=6 31a0-31bf=6 31f0-31ff=6 3400-4dbf=6 4e00-a48c=6 a4d0-a4fd=6 ",
    "a4ff=13 a500-a60c=6 a60e-a60f=13 a610-a61f=6 a620-a629=9 a62a-a62b=6 a640=14 a641=8 a642=14 ",
    "a643=8 a644=14 a645=8 a646=14 a647=8 a648=14 a649=8 a64a=14 a64b=8 a64c=14 a64d=8 a64e=14 a64f=8 ",
    "a650=14 a651=8 a652=14 a653=8 a654=14 a655=8 a656=14 a657=8 a658=14 a659=8 a65a=14 a65b=8 ",
    "a65c=14 a65d=8 a65e=14 a65f=8 a660=14 a661=8 a662=14 a663=8 a664=14 a665=8 a666=14 a667=8 ",
    "a668=14 a669=8 a66a=14 a66b=8 a66c=14 a66d=8 a66e=6 a66f-a672=4 a674-a67d=4 a67f=6 a680=14 ",
    "a681=8 a682=14 a683=8 a684=14 a685=8 a686=14 a687=8 a688=14 a689=8 a68a=14 a68b=8 a68c=14 a68d=8 ",
    "a68e=14 a68f=8 a690=14 a691=8 a692=14 a693=8 a694=14 a695=8 a696=14 a697=8 a698=14 a699=8 ",
    "a69a=14 a69b-a69d=8 a69e-a69f=4 a6a0-a6ef=6 a6f0-a6f1=4 a6f3=13 a6f7=13 a717-a71f=6 a722=14 ",
    "a723=8 a724=14 a725=8 a726=14 a727=8 a728=14 a729=8 a72a=14 a72b=8 a72c=14 a72d=8 a72e=14 ",
    "a72f-a731=8 a732=14 a733=8 a734=14 a735=8 a736=14 a737=8 a738=14 a739=8 a73a=14 a73b=8 a73c=14 ",
    "a73d=8 a73e=14 a73f=8 a740=14 a741=8 a742=14 a743=8 a744=14 a745=8 a746=14 a747=8 a748=14 a749=8 ",
    "a74a=14 a74b=8 a74c=14 a74d=8 a74e=14 a74f=8 a750=14 a751=8 a752=14 a753=8 a754=14 a755=8 ",
    "a756=14 a757=8 a758=14 a759=8 a75a=14 a75b=8 a75c=14 a75d=8 a75e=14 a75f=8 a760=14 a761=8 ",
    "a762=14 a763=8 a764=14 a765=8 a766=14 a767=8 a768=14 a769=8 a76a=14 a76b=8 a76c=14 a76d=8 ",
    "a76e=14 a76f-a778=8 a779=14 a77a=8 a77b=14 a77c=8 a77d-a77e=14 a77f=8 a780=14 a781=8 a782=14 ",
    "a783=8 a784=14 a785=8 a786=14 a787=8 a788=6 a78b=14 a78c=8 a78d=14 a78e=8 a78f=6 a790=14 a791=8 ",
    "a792=14 a793-a795=8 a796=14 a797=8 a798=14 a799=8 a79a=14 a79b=8 a79c=14 a79d=8 a79e=14 a79f=8 ",
    "a7a0=14 a7a1=8 a7a2=14 a7a3=8 a7a4=14 a7a5=8 a7a6=14 a7a7=8 a7a8=14 a7a9=8 a7aa-a7ae=14 a7af=8 ",
    "a7b0-a7b4=14 a7b5=8 a7b6=14 a7b7=8 a7b8=14 a7b9=8 a7ba=14 a7bb=8 a7bc=14 a7bd=8 a7be=14 a7bf=8 ",
    "a7c0=14 a7c1=8 a7c2=14 a7c3=8 a7c4-a7c7=14 a7c8=8 a7c9=14 a7ca=8 a7d0=14 a7d1=8 a7d3=8 a7d5=8 ",
    "a7d6=14 a7d7=8 a7d8=14 a7d9=8 a7f2-a7f4=8 a7f5=14 a7f6=8 a7f7=6 a7f8-a7fa=8 a7fb-a801=6 a802=4 ",
    "a803-a805=6 a806=4 a807-a80a=6 a80b=4 a80c-a822=6 a823-a827=4 a82c=4 a840-a873=6 a876-a877=13 ",
    "a880-a881=4 a882-a8b3=6 a8b4-a8c5=4 a8ce-a8cf=13 a8d0-a8d9=9 a8e0-a8f1=4 a8f2-a8f7=6 a8fb=6 ",
    "a8fd-a8fe=6 a8ff=4 a900-a909=9 a90a-a925=6 a926-a92d=4 a92f=13 a930-a946=6 a947-a953=4 ",
    "a960-a97c=6 a980-a983=4 a984-a9b2=6 a9b3-a9c0=4 a9c8-a9c9=13 a9cf=6 a9d0-a9d9=9 a9e0-a9e4=6 ",
    "a9e5=4 a9e6-a9ef=6 a9f0-a9f9=9 a9fa-a9fe=6 aa00-aa28=6 aa29-aa36=4 aa40-aa42=6 aa43=4 ",
    "aa44-aa4b=6 aa4c-aa4d=4 aa50-aa59=9 aa5d-aa5f=13 aa60-aa76=6 aa7a=6 aa7b-aa7d=4 aa7e-aaaf=6 ",
    "aab0=4 aab1=6 aab2-aab4=4 aab5-aab6=6 aab7-aab8=4 aab9-aabd=6 aabe-aabf=4 aac0=6 aac1=4 aac2=6 ",
    "aadb-aadd=6 aae0-aaea=6 aaeb-aaef=4 aaf0-aaf1=13 aaf2-aaf4=6 aaf5-aaf6=4 ab01-ab06=6 ab09-ab0e=6 ",
    "ab11-ab16=6 ab20-ab26=6 ab28-ab2e=6 ab30-ab5a=8 ab5c-ab69=8 ab70-abbf=8 abc0-abe2=6 abe3-abea=4 ",
    "abeb=13 abec-abed=4 abf0-abf9=9 ac00-d7a3=6 d7b0-d7c6=6 d7cb-d7fb=6 f900-fa6d=6 fa70-fad9=6 ",
    "fb00-fb06=8 fb13-fb17=8 fb1d=6 fb1e=4 fb1f-fb28=6 fb2a-fb36=6 fb38-fb3c=6 fb3e=6 fb40-fb41=6 ",
    "fb43-fb44=6 fb46-fbb1=6 fbd3-fd3d=6 fd3e-fd3f=2 fd50-fd8f=6 fd92-fdc7=6 fdf0-fdfb=6 fe00-fe0f=4 ",
    "fe10-fe11=10 fe13=10 fe17-fe18=2 fe20-fe2f=4 fe31-fe32=10 fe35-fe44=2 fe47-fe48=2 fe50-fe51=10 ",
    "fe52=1 fe55=10 fe56-fe57=13 fe58=10 fe59-fe5e=2 fe63=10 fe70-fe74=6 fe76-fefc=6 feff=5 ff01=13 ",
    "ff08-ff09=2 ff0c-ff0d=10 ff0e=1 ff10-ff19=9 ff1a=10 ff1f=13 ff21-ff3a=14 ff3b=2 ff3d=2 ",
    "ff41-ff5a=8 ff5b=2 ff5d=2 ff5f-ff60=2 ff61=13 ff62-ff63=2 ff64=10 ff66-ff9d=6 ff9e-ff9f=4 ",
    "ffa0-ffbe=6 ffc2-ffc7=6 ffca-ffcf=6 ffd2-ffd7=6 ffda-ffdc=6 fff9-fffb=5 10000-1000b=6 ",
    "1000d-10026=6 10028-1003a=6 1003c-1003d=6 1003f-1004d=6 10050-1005d=6 10080-100fa=6 ",
    "10140-10174=6 101fd=4 10280-1029c=6 102a0-102d0=6 102e0=4 10300-1031f=6 1032d-1034a=6 ",
    "10350-10375=6 10376-1037a=4 10380-1039d=6 103a0-103c3=6 103c8-103cf=6 103d1-103d5=6 ",
    "10400-10427=14 10428-1044f=8 10450-1049d=6 104a0-104a9=9 104b0-104d3=14 104d8-104fb=8 ",
    "10500-10527=6 10530-10563=6 10570-1057a=14 1057c-1058a=14 1058c-10592=14 10594-10595=14 ",
    "10597-105a1=8 105a3-105b1=8 105b3-105b9=8 105bb-105bc=8 10600-10736=6 10740-10755=6 ",
    "10760-10767=6 10780=8 10781-10782=6 10783-10785=8 10787-107b0=8 107b2-107ba=8 10800-10805=6 ",
    "10808=6 1080a-10835=6 10837-10838=6 1083c=6 1083f-10855=6 10860-10876=6 10880-1089e=6 ",
    "108e0-108f2=6 108f4-108f5=6 10900-10915=6 10920-10939=6 10980-109b7=6 109be-109bf=6 10a00=6 ",
    "10a01-10a03=4 10a05-10a06=4 10a0c-10a0f=4 10a10-10a13=6 10a15-10a17=6 10a19-10a35=6 ",
    "10a38-10a3a=4 10a3f=4 10a56-10a57=13 10a60-10a7c=6 10a80-10a9c=6 10ac0-10ac7=6 10ac9-10ae4=6 ",
    "10ae5-10ae6=4 10b00-10b35=6 10b40-10b55=6 10b60-10b72=6 10b80-10b91=6 10c00-10c48=6 ",
    "10c80-10cb2=14 10cc0-10cf2=8 10d00-10d23=6 10d24-10d27=4 10d30-10d39=9 10e80-10ea9=6 ",
    "10eab-10eac=4 10eb0-10eb1=6 10efd-10eff=4 10f00-10f1c=6 10f27=6 10f30-10f45=6 10f46-10f50=4 ",
    "10f55-10f59=13 10f70-10f81=6 10f82-10f85=4 10f86-10f89=13 10fb0-10fc4=6 10fe0-10ff6=6 ",
    "11000-11002=4 11003-11037=6 11038-11046=4 11047-11048=13 11066-1106f=9 11070=4 11071-11072=6 ",
    "11073-11074=4 11075=6 1107f-11082=4 11083-110af=6 110b0-110ba=4 110bd=5 110be-110c1=13 110c2=4 ",
    "110cd=5 110d0-110e8=6 110f0-110f9=9 11100-11102=4 11103-11126=6 11127-11134=4 11136-1113f=9 ",
    "11141-11143=13 11144=6 11145-11146=4 11147=6 11150-11172=6 11173=4 11176=6 11180-11182=4 ",
    "11183-111b2=6 111b3-111c0=4 111c1-111c4=6 111c5-111c6=13 111c9-111cc=4 111cd=13 111ce-111cf=4 ",
    "111d0-111d9=9 111da=6 111dc=6 111de-111df=13 11200-11211=6 11213-1122b=6 1122c-11237=4 ",
    "11238-11239=13 1123b-1123c=13 1123e=4 1123f-11240=6 11241=4 11280-11286=6 11288=6 1128a-1128d=6 ",
    "1128f-1129d=6 1129f-112a8=6 112a9=13 112b0-112de=6 112df-112ea=4 112f0-112f9=9 11300-11303=4 ",
    "11305-1130c=6 1130f-11310=6 11313-11328=6 1132a-11330=6 11332-11333=6 11335-11339=6 ",
    "1133b-1133c=4 1133d=6 1133e-11344=4 11347-11348=4 1134b-1134d=4 11350=6 11357=4 1135d-11361=6 ",
    "11362-11363=4 11366-1136c=4 11370-11374=4 11400-11434=6 11435-11446=4 11447-1144a=6 ",
    "1144b-1144c=13 11450-11459=9 1145e=4 1145f-11461=6 11480-114af=6 114b0-114c3=4 114c4-114c5=6 ",
    "114c7=6 114d0-114d9=9 11580-115ae=6 115af-115b5=4 115b8-115c0=4 115c2-115c3=13 115c9-115d7=13 ",
    "115d8-115db=6 115dc-115dd=4 11600-1162f=6 11630-11640=4 11641-11642=13 11644=6 11650-11659=9 ",
    "11680-116aa=6 116ab-116b7=4 116b8=6 116c0-116c9=9 11700-1171a=6 1171d-1172b=4 11730-11739=9 ",
    "1173c-1173e=13 11740-11746=6 11800-1182b=6 1182c-1183a=4 118a0-118bf=14 118c0-118df=8 ",
    "118e0-118e9=9 118ff-11906=6 11909=6 1190c-11913=6 11915-11916=6 11918-1192f=6 11930-11935=4 ",
    "11937-11938=4 1193b-1193e=4 1193f=6 11940=4 11941=6 11942-11943=4 11944=13 11946=13 ",
    "11950-11959=9 119a0-119a7=6 119aa-119d0=6 119d1-119d7=4 119da-119e0=4 119e1=6 119e3=6 119e4=4 ",
    "11a00=6 11a01-11a0a=4 11a0b-11a32=6 11a33-11a39=4 11a3a=6 11a3b-11a3e=4 11a42-11a43=13 11a47=4 ",
    "11a50=6 11a51-11a5b=4 11a5c-11a89=6 11a8a-11a99=4 11a9b-11a9c=13 11a9d=6 11ab0-11af8=6 ",
    "11c00-11c08=6 11c0a-11c2e=6 11c2f-11c36=4 11c38-11c3f=4 11c40=6 11c41-11c42=13 11c50-11c59=9 ",
    "11c72-11c8f=6 11c92-11ca7=4 11ca9-11cb6=4 11d00-11d06=6 11d08-11d09=6 11d0b-11d30=6 ",
    "11d31-11d36=4 11d3a=4 11d3c-11d3d=4 11d3f-11d45=4 11d46=6 11d47=4 11d50-11d59=9 11d60-11d65=6 ",
    "11d67-11d68=6 11d6a-11d89=6 11d8a-11d8e=4 11d90-11d91=4 11d93-11d97=4 11d98=6 11da0-11da9=9 ",
    "11ee0-11ef2=6 11ef3-11ef6=4 11ef7-11ef8=13 11f00-11f01=4 11f02=6 11f03=4 11f04-11f10=6 ",
    "11f12-11f33=6 11f34-11f3a=4 11f3e-11f42=4 11f43-11f44=13 11f50-11f59=9 11fb0=6 12000-12399=6 ",
    "12400-1246e=6 12480-12543=6 12f90-12ff0=6 13000-1342f=6 13430-1343f=5 13440=4 13441-13446=6 ",
    "13447-13455=4 14400-14646=6 16800-16a38=6 16a40-16a5e=6 16a60-16a69=9 16a6e-16a6f=13 ",
    "16a70-16abe=6 16ac0-16ac9=9 16ad0-16aed=6 16af0-16af4=4 16af5=13 16b00-16b2f=6 16b30-16b36=4 ",
    "16b37-16b38=13 16b40-16b43=6 16b44=13 16b50-16b59=9 16b63-16b77=6 16b7d-16b8f=6 16e40-16e5f=14 ",
    "16e60-16e7f=8 16e98=13 16f00-16f4a=6 16f4f=4 16f50=6 16f51-16f87=4 16f8f-16f92=4 16f93-16f9f=6 ",
    "16fe0-16fe1=6 16fe3=6 16fe4=4 16ff0-16ff1=4 17000-187f7=6 18800-18cd5=6 18d00-18d08=6 ",
    "1aff0-1aff3=6 1aff5-1affb=6 1affd-1affe=6 1b000-1b122=6 1b132=6 1b150-1b152=6 1b155=6 ",
    "1b164-1b167=6 1b170-1b2fb=6 1bc00-1bc6a=6 1bc70-1bc7c=6 1bc80-1bc88=6 1bc90-1bc99=6 ",
    "1bc9d-1bc9e=4 1bc9f=13 1bca0-1bca3=5 1cf00-1cf2d=4 1cf30-1cf46=4 1d165-1d169=4 1d16d-1d172=4 ",
    "1d173-1d17a=5 1d17b-1d182=4 1d185-1d18b=4 1d1aa-1d1ad=4 1d242-1d244=4 1d400-1d419=14 ",
    "1d41a-1d433=8 1d434-1d44d=14 1d44e-1d454=8 1d456-1d467=8 1d468-1d481=14 1d482-1d49b=8 1d49c=14 ",
    "1d49e-1d49f=14 1d4a2=14 1d4a5-1d4a6=14 1d4a9-1d4ac=14 1d4ae-1d4b5=14 1d4b6-1d4b9=8 1d4bb=8 ",
    "1d4bd-1d4c3=8 1d4c5-1d4cf=8 1d4d0-1d4e9=14 1d4ea-1d503=8 1d504-1d505=14 1d507-1d50a=14 ",
    "1d50d-1d514=14 1d516-1d51c=14 1d51e-1d537=8 1d538-1d539=14 1d53b-1d53e=14 1d540-1d544=14 ",
    "1d546=14 1d54a-1d550=14 1d552-1d56b=8 1d56c-1d585=14 1d586-1d59f=8 1d5a0-1d5b9=14 1d5ba-1d5d3=8 ",
    "1d5d4-1d5ed=14 1d5ee-1d607=8 1d608-1d621=14 1d622-1d63b=8 1d63c-1d655=14 1d656-1d66f=8 ",
    "1d670-1d689=14 1d68a-1d6a5=8 1d6a8-1d6c0=14 1d6c2-1d6da=8 1d6dc-1d6e1=8 1d6e2-1d6fa=14 ",
    "1d6fc-1d714=8 1d716-1d71b=8 1d71c-1d734=14 1d736-1d74e=8 1d750-1d755=8 1d756-1d76e=14 ",
    "1d770-1d788=8 1d78a-1d78f=8 1d790-1d7a8=14 1d7aa-1d7c2=8 1d7c4-1d7c9=8 1d7ca=14 1d7cb=8 ",
    "1d7ce-1d7ff=9 1da00-1da36=4 1da3b-1da6c=4 1da75=4 1da84=4 1da88=13 1da9b-1da9f=4 1daa1-1daaf=4 ",
    "1df00-1df09=8 1df0a=6 1df0b-1df1e=8 1df25-1df2a=8 1e000-1e006=4 1e008-1e018=4 1e01b-1e021=4 ",
    "1e023-1e024=4 1e026-1e02a=4 1e030-1e06d=8 1e08f=4 1e100-1e12c=6 1e130-1e136=4 1e137-1e13d=6 ",
    "1e140-1e149=9 1e14e=6 1e290-1e2ad=6 1e2ae=4 1e2c0-1e2eb=6 1e2ec-1e2ef=4 1e2f0-1e2f9=9 ",
    "1e4d0-1e4eb=6 1e4ec-1e4ef=4 1e4f0-1e4f9=9 1e7e0-1e7e6=6 1e7e8-1e7eb=6 1e7ed-1e7ee=6 ",
    "1e7f0-1e7fe=6 1e800-1e8c4=6 1e8d0-1e8d6=4 1e900-1e921=14 1e922-1e943=8 1e944-1e94a=4 1e94b=6 ",
    "1e950-1e959=9 1ee00-1ee03=6 1ee05-1ee1f=6 1ee21-1ee22=6 1ee24=6 1ee27=6 1ee29-1ee32=6 ",
    "1ee34-1ee37=6 1ee39=6 1ee3b=6 1ee42=6 1ee47=6 1ee49=6 1ee4b=6 1ee4d-1ee4f=6 1ee51-1ee52=6 ",
    "1ee54=6 1ee57=6 1ee59=6 1ee5b=6 1ee5d=6 1ee5f=6 1ee61-1ee62=6 1ee64=6 1ee67-1ee6a=6 ",
    "1ee6c-1ee72=6 1ee74-1ee77=6 1ee79-1ee7c=6 1ee7e=6 1ee80-1ee89=6 1ee8b-1ee9b=6 1eea1-1eea3=6 ",
    "1eea5-1eea9=6 1eeab-1eebb=6 1f130-1f149=14 1f150-1f169=14 1f170-1f189=14 1f676-1f678=2 ",
    "1fbf0-1fbf9=9 20000-2a6df=6 2a700-2b739=6 2b740-2b81d=6 2b820-2cea1=6 2ceb0-2ebe0=6 ",
    "2f800-2fa1d=6 30000-3134a=6 31350-323af=6 e0001=5 e0020-e007f=4 e0100-e01ef=4"]

/-- The long names of the word break values, numbered from 1. -/
def wordBreakNames : List String :=
  ["CR", "Double_Quote", "E_Base", "E_Base_GAZ", "E_Modifier", "ExtendNumLet", "Extend", "Format", "Glue_After_Zwj", "Hebrew_Letter", "Katakana", "ALetter", "LF", "MidNumLet", "MidLetter", "MidNum", "Newline", "Numeric", "Regional_Indicator", "Single_Quote", "WSegSpace", "Other", "ZWJ"]

/-- Loose aliases of the word break values. -/
def wordBreakAliases : String :=
  String.join [
    "aletter=ALetter cr=CR doublequote=Double_Quote dq=Double_Quote eb=E_Base ebase=E_Base ",
    "ebasegaz=E_Base_GAZ ebg=E_Base_GAZ em=E_Modifier emodifier=E_Modifier ex=ExtendNumLet ",
    "extend=Extend extendnumlet=ExtendNumLet fo=Format format=Format gaz=Glue_After_Zwj ",
    "glueafterzwj=Glue_After_Zwj hebrewletter=Hebrew_Letter hl=Hebrew_Letter ka=Katakana ",
    "katakana=Katakana le=ALetter lf=LF mb=MidNumLet midletter=MidLetter midnum=MidNum ",
    "midnumlet=MidNumLet ml=MidLetter mn=MidNum newline=Newline nl=Newline nu=Numeric numeric=Numeric ",
    "other=Other regionalindicator=Regional_Indicator ri=Regional_Indicator singlequote=Single_Quote ",
    "sq=Single_Quote wsegspace=WSegSpace xx=Other zwj=ZWJ"]

/-- The word break values other than `Other`. -/
def wordBreakText : String :=
  String.join [
    "a=13 b-c=17 d=1 20=21 22=2 27=20 2c=16 2e=14 30-39=18 3a=15 3b=16 41-5a=12 5f=6 61-7a=12 85=17 ",
    "aa=12 ad=8 b5=12 b7=15 ba=12 c0-d6=12 d8-f6=12 f8-2d7=12 2de-2ff=12 300-36f=7 370-374=12 ",
    "376-377=12 37a-37d=12 37e=16 37f=12 386=12 387=15 388-38a=12 38c=12 38e-3a1=12 3a3-3f5=12 ",
    "3f7-481=12 483-489=7 48a-52f=12 531-556=12 559-55c=12 55e=12 55f=15 560-588=12 589=16 58a=12 ",
    "591-5bd=7 5bf=7 5c1-5c2=7 5c4-5c5=7 5c7=7 5d0-5ea=10 5ef-5f2=10 5f3=12 5f4=15 600-605=8 ",
    "60c-60d=16 610-61a=7 61c=8 620-64a=12 64b-65f=7 660-669=18 66b=18 66c=16 66e-66f=12 670=7 ",
    "671-6d3=12 6d5=12 6d6-6dc=7 6dd=8 6df-6e4=7 6e5-6e6=12 6e7-6e8=7 6ea-6ed=7 6ee-6ef=12 6f0-6f9=18 ",
    "6fa-6fc=12 6ff=12 70f=8 710=12 711=7 712-72f=12 730-74a=7 74d-7a5=12 7a6-7b0=7 7b1=12 7c0-7c9=18 ",
    "7ca-7ea=12 7eb-7f3=7 7f4-7f5=12 7f8=16 7fa=12 7fd=7 800-815=12 816-819=7 81a=12 81b-823=7 824=12 ",
    "825-827=7 828=12 829-82d=7 840-858=12 859-85b=7 860-86a=12 870-887=12 889-88e=12 890-891=8 ",
    "898-89f=7 8a0-8c9=12 8ca-8e1=7 8e2=8 8e3-903=7 904-939=12 93a-93c=7 93d=12 93e-94f=7 950=12 ",
    "951-957=7 958-961=12 962-963=7 966-96f=18 971-980=12 981-983=7 985-98c=12 98f-990=12 993-9a8=12 ",
    "9aa-9b0=12 9b2=12 9b6-9b9=12 9bc=7 9bd=12 9be-9c4=7 9c7-9c8=7 9cb-9cd=7 9ce=12 9d7=7 9dc-9dd=12 ",
    "9df-9e1=12 9e2-9e3=7 9e6-9ef=18 9f0-9f1=12 9fc=12 9fe=7 a01-a03=7 a05-a0a=12 a0f-a10=12 ",
    "a13-a28=12 a2a-a30=12 a32-a33=12 a35-a36=12 a38-a39=12 a3c=7 a3e-a42=7 a47-a48=7 a4b-a4d=7 a51=7 ",
    "a59-a5c=12 a5e=12 a66-a6f=18 a70-a71=7 a72-a74=12 a75=7 a81-a83=7 a85-a8d=12 a8f-a91=12 ",
    "a93-aa8=12 aaa-ab0=12 ab2-ab3=12 ab5-ab9=12 abc=7 abd=12 abe-ac5=7 ac7-ac9=7 acb-acd=7 ad0=12 ",
    "ae0-ae1=12 ae2-ae3=7 ae6-aef=18 af9=12 afa-aff=7 b01-b03=7 b05-b0c=12 b0f-b10=12 b13-b28=12 ",
    "b2a-b30=12 b32-b33=12 b35-b39=12 b3c=7 b3d=12 b3e-b44=7 b47-b48=7 b4b-b4d=7 b55-b57=7 b5c-b5d=12 ",
    "b5f-b61=12 b62-b63=7 b66-b6f=18 b71=12 b82=7 b83=12 b85-b8a=12 b8e-b90=12 b92-b95=12 b99-b9a=12 ",
    "b9c=12 b9e-b9f=12 ba3-ba4=12 ba8-baa=12 bae-bb9=12 bbe-bc2=7 bc6-bc8=7 bca-bcd=7 bd0=12 bd7=7 ",
    "be6-bef=18 c00-c04=7 c05-c0c=12 c0e-c10=12 c12-c28=12 c2a-c39=12 c3c=7 c3d=12 c3e-c44=7 ",
    "c46-c48=7 c4a-c4d=7 c55-c56=7 c58-c5a=12 c5d=12 c60-c61=12 c62-c63=7 c66-c6f=18 c80=12 c81-c83=7 ",
    "c85-c8c=12 c8e-c90=12 c92-ca8=12 caa-cb3=12 cb5-cb9=12 cbc=7 cbd=12 cbe-cc4=7 cc6-cc8=7 ",
    "cca-ccd=7 cd5-cd6=7 cdd-cde=12 ce0-ce1=12 ce2-ce3=7 ce6-cef=18 cf1-cf2=12 cf3=7 d00-d03=7 ",
    "d04-d0c=12 d0e-d10=12 d12-d3a=12 d3b-d3c=7 d3d=12 d3e-d44=7 d46-d48=7 d4a-d4d=7 d4e=12 ",
    "d54-d56=12 d57=7 d5f-d61=12 d62-d63=7 d66-d6f=18 d7a-d7f=12 d81-d83=7 d85-d96=12 d9a-db1=12 ",
    "db3-dbb=12 dbd=12 dc0-dc6=12 dca=7 dcf-dd4=7 dd6=7 dd8-ddf=7 de6-def=18 df2-df3=7 e31=7 ",
    "e34-e3a=7 e47-e4e=7 e50-e59=18 eb1=7 eb4-ebc=7 ec8-ece=7 ed0-ed9=18 f00=12 f18-f19=7 f20-f29=18 ",
    "f35=7 f37=7 f39=7 f3e-f3f=7 f40-f47=12 f49-f6c=12 f71-f84=7 f86-f87=7 f88-f8c=12 f8d-f97=7 ",
    "f99-fbc=7 fc6=7 102b-103e=7 1040-1049=18 1056-1059=7 105e-1060=7 1062-1064=7 1067-106d=7 ",
    "1071-1074=7 1082-108d=7 108f=7 1090-1099=18 109a-109d=7 10a0-10c5=12 10c7=12 10cd=12 ",
    "10d0-10fa=12 10fc-1248=12 124a-124d=12 1250-1256=12 1258=12 125a-125d=12 1260-1288=12 ",
    "128a-128d=12 1290-12b0=12 12b2-12b5=12 12b8-12be=12 12c0=12 12c2-12c5=12 12c8-12d6=12 ",
    "12d8-1310=12 1312-1315=12 1318-135a=12 135d-135f=7 1380-138f=12 13a0-13f5=12 13f8-13fd=12 ",
    "1401-166c=12 166f-167f=12 1680=21 1681-169a=12 16a0-16ea=12 16ee-16f8=12 1700-1711=12 ",
    "1712-1715=7 171f-1731=12 1732-1734=7 1740-1751=12 1752-1753=7 1760-176c=12 176e-1770=12 ",
    "1772-1773=7 17b4-17d3=7 17dd=7 17e0-17e9=18 180b-180d=7 180e=8 180f=7 1810-1819=18 1820-1878=12 ",
    "1880-1884=12 1885-1886=7 1887-18a8=12 18a9=7 18aa=12 18b0-18f5=12 1900-191e=12 1920-192b=7 ",
    "1930-193b=7 1946-194f=18 19d0-19d9=18 1a00-1a16=12 1a17-1a1b=7 1a55-1a5e=7 1a60-1a7c=7 1a7f=7 ",
    "1a80-1a89=18 1a90-1a99=18 1ab0-1ace=7 1b00-1b04=7 1b05-1b33=12 1b34-1b44=7 1b45-1b4c=12 ",
    "1b50-1b59=18 1b6b-1b73=7 1b80-1b82=7 1b83-1ba0=12 1ba1-1bad=7 1bae-1baf=12 1bb0-1bb9=18 ",
    "1bba-1be5=12 1be6-1bf3=7 1c00-1c23=12 1c24-1c37=7 1c40-1c49=18 1c4d-1c4f=12 1c50-1c59=18 ",
    "1c5a-1c7d=12 1c80-1c88=12 1c90-1cba=12 1cbd-1cbf=12 1cd0-1cd2=7 1cd4-1ce8=7 1ce9-1cec=12 1ced=7 ",
    "1cee-1cf3=12 1cf4=7 1cf5-1cf6=12 1cf7-1cf9=7 1cfa=12 1d00-1dbf=12 1dc0-1dff=7 1e00-1f15=12 ",
    "1f18-1f1d=12 1f20-1f45=12 1f48-1f4d=12 1f50-1f57=12 1f59=12 1f5b=12 1f5d=12 1f5f-1f7d=12 ",
    "1f80-1fb4=12 1fb6-1fbc=12 1fbe=12 1fc2-1fc4=12 1fc6-1fcc=12 1fd0-1fd3=12 1fd6-1fdb=12 ",
    "1fe0-1fec=12 1ff2-1ff4=12 1ff6-1ffc=12 2000=21 2001=21 2002=21 2003=21 2004=21 2005=21 2006=21 ",
    "2008=21 2009=21 200a=21 200c=7 200d=23 200e-200f=8 2018-2019=14 2024=14 2027=15 2028-2029=17 ",
    "202a-202e=8 202f=6 203f-2040=6 2044=16 2054=6 205f=21 2060-2064=8 2066-206f=8 2071=12 207f=12 ",
    "2090-209c=12 20d0-20f0=7 2102=12 2107=12 210a-2113=12 2115=12 2119-211d=12 2124=12 2126=12 ",
    "2128=12 212a-212d=12 212f-2138=12 2139=12 213c-213f=12 2145-2149=12 214e=12 2160-2188=12 ",
    "24b6-24c1=12 24c2=12 24c3-24e9=12 2c00-2ce4=12 2ceb-2cee=12 2cef-2cf1=7 2cf2-2cf3=12 ",
    "2d00-2d25=12 2d27=12 2d2d=12 2d30-2d67=12 2d6f=12 2d7f=7 2d80-2d96=12 2da0-2da6=12 2da8-2dae=12 ",
    "2db0-2db6=12 2db8-2dbe=12 2dc0-2dc6=12 2dc8-2dce=12 2dd0-2dd6=12 2dd8-2dde=12 2de0-2dff=7 ",
    "2e2f=12 3000=21 3005=12 302a-302f=7 3031-3035=11 303b-303c=12 3099-309a=7 309b-309c=11 ",
    "30a0-30fa=11 30fc-30ff=11 3105-312f=12 3131-318e=12 31a0-31bf=12 31f0-31ff=11 32d0-32fe=11 ",
    "3300-3357=11 a000-a48c=12 a4d0-a4fd=12 a500-a60c=12 a610-a61f=12 a620-a629=18 a62a-a62b=12 ",
    "a640-a66e=12 a66f-a672=7 a674-a67d=7 a67f-a69d=12 a69e-a69f=7 a6a0-a6ef=12 a6f0-a6f1=7 ",
    "a708-a7ca=12 a7d0-a7d1=12 a7d3=12 a7d5-a7d9=12 a7f2-a801=12 a802=7 a803-a805=12 a806=7 ",
    "a807-a80a=12 a80b=7 a80c-a822=12 a823-a827=7 a82c=7 a840-a873=12 a880-a881=7 a882-a8b3=12 ",
    "a8b4-a8c5=7 a8d0-a8d9=18 a8e0-a8f1=7 a8f2-a8f7=12 a8fb=12 a8fd-a8fe=12 a8ff=7 a900-a909=18 ",
    "a90a-a925=12 a926-a92d=7 a930-a946=12 a947-a953=7 a960-a97c=12 a980-a983=7 a984-a9b2=12 ",
    "a9b3-a9c0=7 a9cf=12 a9d0-a9d9=18 a9e5=7 a9f0-a9f9=18 aa00-aa28=12 aa29-aa36=7 aa40-aa42=12 ",
    "aa43=7 aa44-aa4b=12 aa4c-aa4d=7 aa50-aa59=18 aa7b-aa7d=7 aab0=7 aab2-aab4=7 aab7-aab8=7 ",
    "aabe-aabf=7 aac1=7 aae0-aaea=12 aaeb-aaef=7 aaf2-aaf4=12 aaf5-aaf6=7 ab01-ab06=12 ab09-ab0e=12 ",
    "ab11-ab16=12 ab20-ab26=12 ab28-ab2e=12 ab30-ab69=12 ab70-abe2=12 abe3-abea=7 abec-abed=7 ",
    "abf0-abf9=18 ac00-d7a3=12 d7b0-d7c6=12 d7cb-d7fb=12 fb00-fb06=12 fb13-fb17=12 fb1d=10 fb1e=7 ",
    "fb1f-fb28=10 fb2a-fb36=10 fb38-fb3c=10 fb3e=10 fb40-fb41=10 fb43-fb44=10 fb46-fb4f=10 ",
    "fb50-fbb1=12 fbd3-fd3d=12 fd50-fd8f=12 fd92-fdc7=12 fdf0-fdfb=12 fe00-fe0f=7 fe10=16 fe13=15 ",
    "fe14=16 fe20-fe2f=7 fe33-fe34=6 fe4d-fe4f=6 fe50=16 fe52=14 fe54=16 fe55=15 fe70-fe74=12 ",
    "fe76-fefc=12 feff=8 ff07=14 ff0c=16 ff0e=14 ff10-ff19=18 ff1a=15 ff1b=16 ff21-ff3a=12 ff3f=6 ",
    "ff41-ff5a=12 ff66-ff9d=11 ff9e-ff9f=7 ffa0-ffbe=12 ffc2-ffc7=12 ffca-ffcf=12 ffd2-ffd7=12 ",
    "ffda-ffdc=12 fff9-fffb=8 10000-1000b=12 1000d-10026=12 10028-1003a=12 1003c-1003d=12 ",
    "1003f-1004d=12 10050-1005d=12 10080-100fa=12 10140-10174=12 101fd=7 10280-1029c=12 ",
    "102a0-102d0=12 102e0=7 10300-1031f=12 1032d-1034a=12 10350-10375=12 10376-1037a=7 10380-1039d=12 ",
    "103a0-103c3=12 103c8-103cf=12 103d1-103d5=12 10400-1049d=12 104a0-104a9=18 104b0-104d3=12 ",
    "104d8-104fb=12 10500-10527=12 10530-10563=12 10570-1057a=12 1057c-1058a=12 1058c-10592=12 ",
    "10594-10595=12 10597-105a1=12 105a3-105b1=12 105b3-105b9=12 105bb-105bc=12 10600-10736=12 ",
    "10740-10755=12 10760-10767=12 10780-10785=12 10787-107b0=12 107b2-107ba=12 10800-10805=12 ",
    "10808=12 1080a-10835=12 10837-10838=12 1083c=12 1083f-10855=12 10860-10876=12 10880-1089e=12 ",
    "108e0-108f2=12 108f4-108f5=12 10900-10915=12 10920-10939=12 10980-109b7=12 109be-109bf=12 ",
    "10a00=12 10a01-10a03=7 10a05-10a06=7 10a0c-10a0f=7 10a10-10a13=12 10a15-10a17=12 10a19-10a35=12 ",
    "10a38-10a3a=7 10a3f=7 10a60-10a7c=12 10a80-10a9c=12 10ac0-10ac7=12 10ac9-10ae4=12 10ae5-10ae6=7 ",
    "10b00-10b35=12 10b40-10b55=12 10b60-10b72=12 10b80-10b91=12 10c00-10c48=12 10c80-10cb2=12 ",
    "10cc0-10cf2=12 10d00-10d23=12 10d24-10d27=7 10d30-10d39=18 10e80-10ea9=12 10eab-10eac=7 ",
    "10eb0-10eb1=12 10efd-10eff=7 10f00-10f1c=12 10f27=12 10f30-10f45=12 10f46-10f50=7 10f70-10f81=12 ",
    "10f82-10f85=7 10fb0-10fc4=12 10fe0-10ff6=12 11000-11002=7 11003-11037=12 11038-11046=7 ",
    "11066-1106f=18 11070=7 11071-11072=12 11073-11074=7 11075=12 1107f-11082=7 11083-110af=12 ",
    "110b0-110ba=7 110bd=8 110c2=7 110cd=8 110d0-110e8=12 110f0-110f9=18 11100-11102=7 11103-11126=12 ",
    "11127-11134=7 11136-1113f=18 11144=12 11145-11146=7 11147=12 11150-11172=12 11173=7 11176=12 ",
    "11180-11182=7 11183-111b2=12 111b3-111c0=7 111c1-111c4=12 111c9-111cc=7 111ce-111cf=7 ",
    "111d0-111d9=18 111da=12 111dc=12 11200-11211=12 11213-1122b=12 1122c-11237=7 1123e=7 ",
    "1123f-11240=12 11241=7 11280-11286=12 11288=12 1128a-1128d=12 1128f-1129d=12 1129f-112a8=12 ",
    "112b0-112de=12 112df-112ea=7 112f0-112f9=18 11300-11303=7 11305-1130c=12 1130f-11310=12 ",
    "11313-11328=12 1132a-11330=12 11332-11333=12 11335-11339=12 1133b-1133c=7 1133d=12 1133e-11344=7 ",
    "11347-11348=7 1134b-1134d=7 11350=12 11357=7 1135d-11361=12 11362-11363=7 11366-1136c=7 ",
    "11370-11374=7 11400-11434=12 11435-11446=7 11447-1144a=12 11450-11459=18 1145e=7 1145f-11461=12 ",
    "11480-114af=12 114b0-114c3=7 114c4-114c5=12 114c7=12 114d0-114d9=18 11580-115ae=12 115af-115b5=7 ",
    "115b8-115c0=7 115d8-115db=12 115dc-115dd=7 11600-1162f=12 11630-11640=7 11644=12 11650-11659=18 ",
    "11680-116aa=12 116ab-116b7=7 116b8=12 116c0-116c9=18 1171d-1172b=7 11730-11739=18 11800-1182b=12 ",
    "1182c-1183a=7 118a0-118df=12 118e0-118e9=18 118ff-11906=12 11909=12 1190c-11913=12 ",
    "11915-11916=12 11918-1192f=12 11930-11935=7 11937-11938=7 1193b-1193e=7 1193f=12 11940=7 ",
    "11941=12 11942-11943=7 11950-11959=18 119a0-119a7=12 119aa-119d0=12 119d1-119d7=7 119da-119e0=7 ",
    "119e1=12 119e3=12 119e4=7 11a00=12 11a01-11a0a=7 11a0b-11a32=12 11a33-11a39=7 11a3a=12 ",
    "11a3b-11a3e=7 11a47=7 11a50=12 11a51-11a5b=7 11a5c-11a89=12 11a8a-11a99=7 11a9d=12 ",
    "11ab0-11af8=12 11c00-11c08=12 11c0a-11c2e=12 11c2f-11c36=7 11c38-11c3f=7 11c40=12 11c50-11c59=18 ",
    "11c72-11c8f=12 11c92-11ca7=7 11ca9-11cb6=7 11d00-11d06=12 11d08-11d09=12 11d0b-11d30=12 ",
    "11d31-11d36=7 11d3a=7 11d3c-11d3d=7 11d3f-11d45=7 11d46=12 11d47=7 11d50-11d59=18 11d60-11d65=12 ",
    "11d67-11d68=12 11d6a-11d89=12 11d8a-11d8e=7 11d90-11d91=7 11d93-11d97=7 11d98=12 11da0-11da9=18 ",
    "11ee0-11ef2=12 11ef3-11ef6=7 11f00-11f01=7 11f02=12 11f03=7 11f04-11f10=12 11f12-11f33=12 ",
    "11f34-11f3a=7 11f3e-11f42=7 11f50-11f59=18 11fb0=12 12000-12399=12 12400-1246e=12 12480-12543=12 ",
    "12f90-12ff0=12 13000-1342f=12 13430-1343f=8 13440=7 13441-13446=12 13447-13455=7 14400-14646=12 ",
    "16800-16a38=12 16a40-16a5e=12 16a60-16a69=18 16a70-16abe=12 16ac0-16ac9=18 16ad0-16aed=12 ",
    "16af0-16af4=7 16b00-16b2f=12 16b30-16b36=7 16b40-16b43=12 16b50-16b59=18 16b63-16b77=12 ",
    "16b7d-16b8f=12 16e40-16e7f=12 16f00-16f4a=12 16f4f=7 16f50=12 16f51-16f87=7 16f8f-16f92=7 ",
    "16f93-16f9f=12 16fe0-16fe1=12 16fe3=12 16fe4=7 16ff0-16ff1=7 1aff0-1aff3=11 1aff5-1affb=11 ",
    "1affd-1affe=11 1b000=11 1b120-1b122=11 1b155=11 1b164-1b167=11 1bc00-1bc6a=12 1bc70-1bc7c=12 ",
    "1bc80-1bc88=12 1bc90-1bc99=12 1bc9d-1bc9e=7 1bca0-1bca3=8 1cf00-1cf2d=7 1cf30-1cf46=7 ",
    "1d165-1d169=7 1d16d-1d172=7 1d173-1d17a=8 1d17b-1d182=7 1d185-1d18b=7 1d1aa-1d1ad=7 ",
    "1d242-1d244=7 1d400-1d454=12 1d456-1d49c=12 1d49e-1d49f=12 1d4a2=12 1d4a5-1d4a6=12 ",
    "1d4a9-1d4ac=12 1d4ae-1d4b9=12 1d4bb=12 1d4bd-1d4c3=12 1d4c5-1d505=12 1d507-1d50a=12 ",
    "1d50d-1d514=12 1d516-1d51c=12 1d51e-1d539=12 1d53b-1d53e=12 1d540-1d544=12 1d546=12 ",
    "1d54a-1d550=12 1d552-1d6a5=12 1d6a8-1d6c0=12 1d6c2-1d6da=12 1d6dc-1d6fa=12 1d6fc-1d714=12 ",
    "1d716-1d734=12 1d736-1d74e=12 1d750-1d76e=12 1d770-1d788=12 1d78a-1d7a8=12 1d7aa-1d7c2=12 ",
    "1d7c4-1d7cb=12 1d7ce-1d7ff=18 1da00-1da36=7 1da3b-1da6c=7 1da75=7 1da84=7 1da9b-1da9f=7 ",
    "1daa1-1daaf=7 1df00-1df1e=12 1df25-1df2a=12 1e000-1e006=7 1e008-1e018=7 1e01b-1e021=7 ",
    "1e023-1e024=7 1e026-1e02a=7 1e030-1e06d=12 1e08f=7 1e100-1e12c=12 1e130-1e136=7 1e137-1e13d=12 ",
    "1e140-1e149=18 1e14e=12 1e290-1e2ad=12 1e2ae=7 1e2c0-1e2eb=12 1e2ec-1e2ef=7 1e2f0-1e2f9=18 ",
    "1e4d0-1e4eb=12 1e4ec-1e4ef=7 1e4f0-1e4f9=18 1e7e0-1e7e6=12 1e7e8-1e7eb=12 1e7ed-1e7ee=12 ",
    "1e7f0-1e7fe=12 1e800-1e8c4=12 1e8d0-1e8d6=7 1e900-1e943=12 1e944-1e94a=7 1e94b=12 1e950-1e959=18 ",
    "1ee00-1ee03=12 1ee05-1ee1f=12 1ee21-1ee22=12 1ee24=12 1ee27=12 1ee29-1ee32=12 1ee34-1ee37=12 ",
    "1ee39=12 1ee3b=12 1ee42=12 1ee47=12 1ee49=12 1ee4b=12 1ee4d-1ee4f=12 1ee51-1ee52=12 1ee54=12 ",
    "1ee57=12 1ee59=12 1ee5b=12 1ee5d=12 1ee5f=12 1ee61-1ee62=12 1ee64=12 1ee67-1ee6a=12 ",
    "1ee6c-1ee72=12 1ee74-1ee77=12 1ee79-1ee7c=12 1ee7e=12 1ee80-1ee89=12 1ee8b-1ee9b=12 ",
    "1eea1-1eea3=12 1eea5-1eea9=12 1eeab-1eebb=12 1f130-1f149=12 1f150-1f169=12 1f170-1f171=12 ",
    "1f172-1f17d=12 1f17e-1f17f=12 1f180-1f189=12 1f1e6-1f1ff=19 1f3fb-1f3ff=7 1fbf0-1fbf9=18 e0001=8 ",
    "e0020-e007f=7 e0100-e01ef=7"]

end SmartHelmet.Unicode
