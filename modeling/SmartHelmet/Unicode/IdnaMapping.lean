import SmartHelmet.Unicode.Table
/-!
# The mapping of domain names

Before a domain name is checked and converted, each of its characters is mapped (UTS 46,
Unicode 17.0): it is valid and stays, it is mapped to a sequence of characters (case folding
and compatibility forms), it is a deviation (`ß`, `ς`, the zero-width joiners: kept as they
are), it is ignored and dropped, or it is disallowed and makes the name invalid.

ASCII goes by rule: a capital letter maps to its small letter, and every other ASCII character
is valid here (the URL refuses its forbidden characters later). A code point that is no
character — a surrogate, or one past U+10FFFF — is disallowed. For the rest, the table lists,
from each code point where the status changes, the status (`V` valid, `M` mapped, `D`
deviation, `I` ignored, `X` disallowed) and, for mapped ranges, the code points of the mapping;
each entry holds up to the next one.
-/

namespace SmartHelmet.Unicode

/-- The status of a character in domain names. -/
inductive IdnaStatus where
  | valid
  | mapped (target : List Nat)
  | deviation
  | ignored
  | disallowed
  deriving Repr, BEq, DecidableEq, Inhabited

/-- The mapping table: each entry is a hexadecimal start, a status letter and, for mapped
    entries, the mapping's code points separated by commas. -/
def idnaMappingText : String :=
  String.join [
    "80X 81X 82X 83X 84X 85X ",
    "86X 87X 88X 89X 8aX 8bX 8cX 8dX 8eX 8fX 90X 91X 92X 93X 94X 95X 96X 97X 98X 99X 9aX 9bX 9cX 9dX ",
    "9eX 9fX a0M20 a1V a2V a3V a4V a5V a6V a7V a8M20,308 a9V aaM61 abV acV adI aeV afM20,304 b0V b1V ",
    "b2M32 b3M33 b4M20,301 b5M3bc b6V b7V b8M20,327 b9M31 baM6f bbV bcM31,2044,34 bdM31,2044,32 ",
    "beM33,2044,34 bfV c0Me0 c1Me1 c2Me2 c3Me3 c4Me4 c5Me5 c6Me6 c7Me7 c8Me8 c9Me9 caMea cbMeb ccMec ",
    "cdMed ceMee cfMef d0Mf0 d1Mf1 d2Mf2 d3Mf3 d4Mf4 d5Mf5 d6Mf6 d7V d8Mf8 d9Mf9 daMfa dbMfb dcMfc ",
    "ddMfd deMfe dfD73,73 e0V e1V e2V e3V e4V e5V e6V e7V e8V e9V eaV ebV ecV edV eeV efV f0V f1V f2V ",
    "f3V f4V f5V f6V f7V f8V f9V faV fbV fcV fdV feV ffV 100M101 101V 102M103 103V 104M105 105V ",
    "106M107 107V 108M109 109V 10aM10b 10bV 10cM10d 10dV 10eM10f 10fV 110M111 111V 112M113 113V ",
    "114M115 115V 116M117 117V 118M119 119V 11aM11b 11bV 11cM11d 11dV 11eM11f 11fV 120M121 121V ",
    "122M123 123V 124M125 125V 126M127 127V 128M129 129V 12aM12b 12bV 12cM12d 12dV 12eM12f 12fV ",
    "130M69,307 131V 132M69,6a 134M135 135V 136M137 137V 139M13a 13aV 13bM13c 13cV 13dM13e 13eV ",
    "13fM6c,b7 141M142 142V 143M144 144V 145M146 146V 147M148 148V 149M2bc,6e 14aM14b 14bV 14cM14d ",
    "14dV 14eM14f 14fV 150M151 151V 152M153 153V 154M155 155V 156M157 157V 158M159 159V 15aM15b 15bV ",
    "15cM15d 15dV 15eM15f 15fV 160M161 161V 162M163 163V 164M165 165V 166M167 167V 168M169 169V ",
    "16aM16b 16bV 16cM16d 16dV 16eM16f 16fV 170M171 171V 172M173 173V 174M175 175V 176M177 177V ",
    "178Mff 179M17a 17aV 17bM17c 17cV 17dM17e 17eV 17fM73 180V 181M253 182M183 183V 184M185 185V ",
    "186M254 187M188 188V 189M256 18aM257 18bM18c 18cV 18eM1dd 18fM259 190M25b 191M192 192V 193M260 ",
    "194M263 195V 196M269 197M268 198M199 199V 19cM26f 19dM272 19eV 19fM275 1a0M1a1 1a1V 1a2M1a3 1a3V ",
    "1a4M1a5 1a5V 1a6M280 1a7M1a8 1a8V 1a9M283 1aaV 1acM1ad 1adV 1aeM288 1afM1b0 1b0V 1b1M28a 1b2M28b ",
    "1b3M1b4 1b4V 1b5M1b6 1b6V 1b7M292 1b8M1b9 1b9V 1bcM1bd 1bdV 1c4M64,17e 1c7M6c,6a 1caM6e,6a ",
    "1cdM1ce 1ceV 1cfM1d0 1d0V 1d1M1d2 1d2V 1d3M1d4 1d4V 1d5M1d6 1d6V 1d7M1d8 1d8V 1d9M1da 1daV ",
    "1dbM1dc 1dcV 1deM1df 1dfV 1e0M1e1 1e1V 1e2M1e3 1e3V 1e4M1e5 1e5V 1e6M1e7 1e7V 1e8M1e9 1e9V ",
    "1eaM1eb 1ebV 1ecM1ed 1edV 1eeM1ef 1efV 1f1M64,7a 1f4M1f5 1f5V 1f6M195 1f7M1bf 1f8M1f9 1f9V ",
    "1faM1fb 1fbV 1fcM1fd 1fdV 1feM1ff 1ffV 200M201 201V 202M203 203V 204M205 205V 206M207 207V ",
    "208M209 209V 20aM20b 20bV 20cM20d 20dV 20eM20f 20fV 210M211 211V 212M213 213V 214M215 215V ",
    "216M217 217V 218M219 219V 21aM21b 21bV 21cM21d 21dV 21eM21f 21fV 220M19e 221V 222M223 223V ",
    "224M225 225V 226M227 227V 228M229 229V 22aM22b 22bV 22cM22d 22dV 22eM22f 22fV 230M231 231V ",
    "232M233 233V 23aM2c65 23bM23c 23cV 23dM19a 23eM2c66 23fV 241M242 242V 243M180 244M289 245M28c ",
    "246M247 247V 248M249 249V 24aM24b 24bV 24cM24d 24dV 24eM24f 24fV 2b0M68 2b1M266 2b2M6a 2b3M72 ",
    "2b4M279 2b5M27b 2b6M281 2b7M77 2b8M79 2b9V 2d8M20,306 2d9M20,307 2daM20,30a 2dbM20,328 ",
    "2dcM20,303 2ddM20,30b 2deV 2e0M263 2e1M6c 2e2M73 2e3M78 2e4M295 2e5V 340M300 341M301 342V ",
    "343M313 344M308,301 345M3b9 346V 34fI 350V 370M371 371V 372M373 373V 374M2b9 375V 376M377 377V ",
    "378X 37aM20,3b9 37bV 37eM3b 37fM3f3 380X 384M20,301 385M20,308,301 386M3ac 387Mb7 388M3ad ",
    "389M3ae 38aM3af 38bX 38cM3cc 38dX 38eM3cd 38fM3ce 390V 391M3b1 392M3b2 393M3b3 394M3b4 395M3b5 ",
    "396M3b6 397M3b7 398M3b8 399M3b9 39aM3ba 39bM3bb 39cM3bc 39dM3bd 39eM3be 39fM3bf 3a0M3c0 3a1M3c1 ",
    "3a2X 3a3M3c3 3a4M3c4 3a5M3c5 3a6M3c6 3a7M3c7 3a8M3c8 3a9M3c9 3aaM3ca 3abM3cb 3acV 3c2D3c3 3c3V ",
    "3cfM3d7 3d0M3b2 3d1M3b8 3d2M3c5 3d3M3cd 3d4M3cb 3d5M3c6 3d6M3c0 3d7V 3d8M3d9 3d9V 3daM3db 3dbV ",
    "3dcM3dd 3ddV 3deM3df 3dfV 3e0M3e1 3e1V 3e2M3e3 3e3V 3e4M3e5 3e5V 3e6M3e7 3e7V 3e8M3e9 3e9V ",
    "3eaM3eb 3ebV 3ecM3ed 3edV 3eeM3ef 3efV 3f0M3ba 3f1M3c1 3f2M3c3 3f3V 3f4M3b8 3f5M3b5 3f6V 3f7M3f8 ",
    "3f8V 3f9M3c3 3faM3fb 3fbV 3fdM37b 3feM37c 3ffM37d 400M450 401M451 402M452 403M453 404M454 ",
    "405M455 406M456 407M457 408M458 409M459 40aM45a 40bM45b 40cM45c 40dM45d 40eM45e 40fM45f 410M430 ",
    "411M431 412M432 413M433 414M434 415M435 416M436 417M437 418M438 419M439 41aM43a 41bM43b 41cM43c ",
    "41dM43d 41eM43e 41fM43f 420M440 421M441 422M442 423M443 424M444 425M445 426M446 427M447 428M448 ",
    "429M449 42aM44a 42bM44b 42cM44c 42dM44d 42eM44e 42fM44f 430V 460M461 461V 462M463 463V 464M465 ",
    "465V 466M467 467V 468M469 469V 46aM46b 46bV 46cM46d 46dV 46eM46f 46fV 470M471 471V 472M473 473V ",
    "474M475 475V 476M477 477V 478M479 479V 47aM47b 47bV 47cM47d 47dV 47eM47f 47fV 480M481 481V ",
    "48aM48b 48bV 48cM48d 48dV 48eM48f 48fV 490M491 491V 492M493 493V 494M495 495V 496M497 497V ",
    "498M499 499V 49aM49b 49bV 49cM49d 49dV 49eM49f 49fV 4a0M4a1 4a1V 4a2M4a3 4a3V 4a4M4a5 4a5V ",
    "4a6M4a7 4a7V 4a8M4a9 4a9V 4aaM4ab 4abV 4acM4ad 4adV 4aeM4af 4afV 4b0M4b1 4b1V 4b2M4b3 4b3V ",
    "4b4M4b5 4b5V 4b6M4b7 4b7V 4b8M4b9 4b9V 4baM4bb 4bbV 4bcM4bd 4bdV 4beM4bf 4bfV 4c0M4cf 4c1M4c2 ",
    "4c2V 4c3M4c4 4c4V 4c5M4c6 4c6V 4c7M4c8 4c8V 4c9M4ca 4caV 4cbM4cc 4ccV 4cdM4ce 4ceV 4d0M4d1 4d1V ",
    "4d2M4d3 4d3V 4d4M4d5 4d5V 4d6M4d7 4d7V 4d8M4d9 4d9V 4daM4db 4dbV 4dcM4dd 4ddV 4deM4df 4dfV ",
    "4e0M4e1 4e1V 4e2M4e3 4e3V 4e4M4e5 4e5V 4e6M4e7 4e7V 4e8M4e9 4e9V 4eaM4eb 4ebV 4ecM4ed 4edV ",
    "4eeM4ef 4efV 4f0M4f1 4f1V 4f2M4f3 4f3V 4f4M4f5 4f5V 4f6M4f7 4f7V 4f8M4f9 4f9V 4faM4fb 4fbV ",
    "4fcM4fd 4fdV 4feM4ff 4ffV 500M501 501V 502M503 503V 504M505 505V 506M507 507V 508M509 509V ",
    "50aM50b 50bV 50cM50d 50dV 50eM50f 50fV 510M511 511V 512M513 513V 514M515 515V 516M517 517V ",
    "518M519 519V 51aM51b 51bV 51cM51d 51dV 51eM51f 51fV 520M521 521V 522M523 523V 524M525 525V ",
    "526M527 527V 528M529 529V 52aM52b 52bV 52cM52d 52dV 52eM52f 52fV 530X 531M561 532M562 533M563 ",
    "534M564 535M565 536M566 537M567 538M568 539M569 53aM56a 53bM56b 53cM56c 53dM56d 53eM56e 53fM56f ",
    "540M570 541M571 542M572 543M573 544M574 545M575 546M576 547M577 548M578 549M579 54aM57a 54bM57b ",
    "54cM57c 54dM57d 54eM57e 54fM57f 550M580 551M581 552M582 553M583 554M584 555M585 556M586 557X ",
    "559V 587M565,582 588V 58bX 58dV 590X 591V 5c8X 5d0V 5ebX 5efV 5f5X 606V 61cX 61dV 675M627,674 ",
    "676M648,674 677M6c7,674 678M64a,674 679V 6ddX 6deV 70eX 710V 74bX 74dV 7b2X 7c0V 7fbX 7fdV 82eX ",
    "830V 83fX 840V 85cX 85eV 85fX 860V 86bX 870V 890X 897V 8e2X 8e3V 958M915,93c 959M916,93c ",
    "95aM917,93c 95bM91c,93c 95cM921,93c 95dM922,93c 95eM92b,93c 95fM92f,93c 960V 984X 985V 98dX 98fV ",
    "991X 993V 9a9X 9aaV 9b1X 9b2V 9b3X 9b6V 9baX 9bcV 9c5X 9c7V 9c9X 9cbV 9cfX 9d7V 9d8X 9dcM9a1,9bc ",
    "9ddM9a2,9bc 9deX 9dfM9af,9bc 9e0V 9e4X 9e6V 9ffX a01V a04X a05V a0bX a0fV a11X a13V a29X a2aV ",
    "a31X a32V a33Ma32,a3c a34X a35V a36Ma38,a3c a37X a38V a3aX a3cV a3dX a3eV a43X a47V a49X a4bV ",
    "a4eX a51V a52X a59Ma16,a3c a5aMa17,a3c a5bMa1c,a3c a5cV a5dX a5eMa2b,a3c a5fX a66V a77X a81V ",
    "a84X a85V a8eX a8fV a92X a93V aa9X aaaV ab1X ab2V ab4X ab5V abaX abcV ac6X ac7V acaX acbV aceX ",
    "ad0V ad1X ae0V ae4X ae6V af2X af9V b00X b01V b04X b05V b0dX b0fV b11X b13V b29X b2aV b31X b32V ",
    "b34X b35V b3aX b3cV b45X b47V b49X b4bV b4eX b55V b58X b5cMb21,b3c b5dMb22,b3c b5eX b5fV b64X ",
    "b66V b78X b82V b84X b85V b8bX b8eV b91X b92V b96X b99V b9bX b9cV b9dX b9eV ba0X ba3V ba5X ba8V ",
    "babX baeV bbaX bbeV bc3X bc6V bc9X bcaV bceX bd0V bd1X bd7V bd8X be6V bfbX c00V c0dX c0eV c11X ",
    "c12V c29X c2aV c3aX c3cV c45X c46V c49X c4aV c4eX c55V c57X c58V c5bX c5cV c5eX c60V c64X c66V ",
    "c70X c77V c8dX c8eV c91X c92V ca9X caaV cb4X cb5V cbaX cbcV cc5X cc6V cc9X ccaV cceX cd5V cd7X ",
    "cdcV cdfX ce0V ce4X ce6V cf0X cf1V cf4X d00V d0dX d0eV d11X d12V d45X d46V d49X d4aV d50X d54V ",
    "d64X d66V d80X d81V d84X d85V d97X d9aV db2X db3V dbcX dbdV dbeX dc0V dc7X dcaV dcbX dcfV dd5X ",
    "dd6V dd7X dd8V de0X de6V df0X df2V df5X e01V e33Me4d,e32 e34V e3bX e3fV e5cX e81V e83X e84V e85X ",
    "e86V e8bX e8cV ea4X ea5V ea6X ea7V eb3Mecd,eb2 eb4V ebeX ec0V ec5X ec6V ec7X ec8V ecfX ed0V edaX ",
    "edcMeab,e99 eddMeab,ea1 edeV ee0X f00V f0cMf0b f0dV f43Mf42,fb7 f44V f48X f49V f4dMf4c,fb7 f4eV ",
    "f52Mf51,fb7 f53V f57Mf56,fb7 f58V f5cMf5b,fb7 f5dV f69Mf40,fb5 f6aV f6dX f71V f73Mf71,f72 f74V ",
    "f75Mf71,f74 f76Mfb2,f80 f77Mfb2,f71,f80 f78Mfb3,f80 f79Mfb3,f71,f80 f7aV f81Mf71,f80 f82V ",
    "f93Mf92,fb7 f94V f98X f99V f9dMf9c,fb7 f9eV fa2Mfa1,fb7 fa3V fa7Mfa6,fb7 fa8V facMfab,fb7 fadV ",
    "fb9Mf90,fb5 fbaV fbdX fbeV fcdX fceV fdbX 1000V 10a0M2d00 10a1M2d01 10a2M2d02 10a3M2d03 ",
    "10a4M2d04 10a5M2d05 10a6M2d06 10a7M2d07 10a8M2d08 10a9M2d09 10aaM2d0a 10abM2d0b 10acM2d0c ",
    "10adM2d0d 10aeM2d0e 10afM2d0f 10b0M2d10 10b1M2d11 10b2M2d12 10b3M2d13 10b4M2d14 10b5M2d15 ",
    "10b6M2d16 10b7M2d17 10b8M2d18 10b9M2d19 10baM2d1a 10bbM2d1b 10bcM2d1c 10bdM2d1d 10beM2d1e ",
    "10bfM2d1f 10c0M2d20 10c1M2d21 10c2M2d22 10c3M2d23 10c4M2d24 10c5M2d25 10c6X 10c7M2d27 10c8X ",
    "10cdM2d2d 10ceX 10d0V 10fcM10dc 10fdV 115fI 1161V 1249X 124aV 124eX 1250V 1257X 1258V 1259X ",
    "125aV 125eX 1260V 1289X 128aV 128eX 1290V 12b1X 12b2V 12b6X 12b8V 12bfX 12c0V 12c1X 12c2V 12c6X ",
    "12c8V 12d7X 12d8V 1311X 1312V 1316X 1318V 135bX 135dV 137dX 1380V 139aX 13a0V 13f6X 13f8M13f0 ",
    "13f9M13f1 13faM13f2 13fbM13f3 13fcM13f4 13fdM13f5 13feX 1400V 1680X 1681V 169dX 16a0V 16f9X ",
    "1700V 1716X 171fV 1737X 1740V 1754X 1760V 176dX 176eV 1771X 1772V 1774X 1780V 17b4I 17b6V 17deX ",
    "17e0V 17eaX 17f0V 17faX 1800V 180bI 1810V 181aX 1820V 1879X 1880V 18abX 18b0V 18f6X 1900V 191fX ",
    "1920V 192cX 1930V 193cX 1940V 1941X 1944V 196eX 1970V 1975X 1980V 19acX 19b0V 19caX 19d0V 19dbX ",
    "19deV 1a1cX 1a1eV 1a5fX 1a60V 1a7dX 1a7fV 1a8aX 1a90V 1a9aX 1aa0V 1aaeX 1ab0V 1adeX 1ae0V 1aecX ",
    "1b00V 1b4dX 1b4eV 1bf4X 1bfcV 1c38X 1c3bV 1c4aX 1c4dV 1c80M432 1c81M434 1c82M43e 1c83M441 ",
    "1c84M442 1c86M44a 1c87M463 1c88Ma64b 1c89M1c8a 1c8aV 1c8bX 1c90M10d0 1c91M10d1 1c92M10d2 ",
    "1c93M10d3 1c94M10d4 1c95M10d5 1c96M10d6 1c97M10d7 1c98M10d8 1c99M10d9 1c9aM10da 1c9bM10db ",
    "1c9cM10dc 1c9dM10dd 1c9eM10de 1c9fM10df 1ca0M10e0 1ca1M10e1 1ca2M10e2 1ca3M10e3 1ca4M10e4 ",
    "1ca5M10e5 1ca6M10e6 1ca7M10e7 1ca8M10e8 1ca9M10e9 1caaM10ea 1cabM10eb 1cacM10ec 1cadM10ed ",
    "1caeM10ee 1cafM10ef 1cb0M10f0 1cb1M10f1 1cb2M10f2 1cb3M10f3 1cb4M10f4 1cb5M10f5 1cb6M10f6 ",
    "1cb7M10f7 1cb8M10f8 1cb9M10f9 1cbaM10fa 1cbbX 1cbdM10fd 1cbeM10fe 1cbfM10ff 1cc0V 1cc8X 1cd0V ",
    "1cfbX 1d00V 1d2cM61 1d2dMe6 1d2eM62 1d2fV 1d30M64 1d31M65 1d32M1dd 1d33M67 1d34M68 1d35M69 ",
    "1d36M6a 1d37M6b 1d38M6c 1d39M6d 1d3aM6e 1d3bV 1d3cM6f 1d3dM223 1d3eM70 1d3fM72 1d40M74 1d41M75 ",
    "1d42M77 1d43M61 1d44M250 1d45M251 1d46M1d02 1d47M62 1d48M64 1d49M65 1d4aM259 1d4bM25b 1d4cM25c ",
    "1d4dM67 1d4eV 1d4fM6b 1d50M6d 1d51M14b 1d52M6f 1d53M254 1d54M1d16 1d55M1d17 1d56M70 1d57M74 ",
    "1d58M75 1d59M1d1d 1d5aM26f 1d5bM76 1d5cM1d25 1d5dM3b2 1d5eM3b3 1d5fM3b4 1d60M3c6 1d61M3c7 ",
    "1d62M69 1d63M72 1d64M75 1d65M76 1d66M3b2 1d67M3b3 1d68M3c1 1d69M3c6 1d6aM3c7 1d6bV 1d78M43d ",
    "1d79V 1d9bM252 1d9cM63 1d9dM255 1d9eMf0 1d9fM25c 1da0M66 1da1M25f 1da2M261 1da3M265 1da4M268 ",
    "1da5M269 1da6M26a 1da7M1d7b 1da8M29d 1da9M26d 1daaM1d85 1dabM29f 1dacM271 1dadM270 1daeM272 ",
    "1dafM273 1db0M274 1db1M275 1db2M278 1db3M282 1db4M283 1db5M1ab 1db6M289 1db7M28a 1db8M1d1c ",
    "1db9M28b 1dbaM28c 1dbbM7a 1dbcM290 1dbdM291 1dbeM292 1dbfM3b8 1dc0V 1e00M1e01 1e01V 1e02M1e03 ",
    "1e03V 1e04M1e05 1e05V 1e06M1e07 1e07V 1e08M1e09 1e09V 1e0aM1e0b 1e0bV 1e0cM1e0d 1e0dV 1e0eM1e0f ",
    "1e0fV 1e10M1e11 1e11V 1e12M1e13 1e13V 1e14M1e15 1e15V 1e16M1e17 1e17V 1e18M1e19 1e19V 1e1aM1e1b ",
    "1e1bV 1e1cM1e1d 1e1dV 1e1eM1e1f 1e1fV 1e20M1e21 1e21V 1e22M1e23 1e23V 1e24M1e25 1e25V 1e26M1e27 ",
    "1e27V 1e28M1e29 1e29V 1e2aM1e2b 1e2bV 1e2cM1e2d 1e2dV 1e2eM1e2f 1e2fV 1e30M1e31 1e31V 1e32M1e33 ",
    "1e33V 1e34M1e35 1e35V 1e36M1e37 1e37V 1e38M1e39 1e39V 1e3aM1e3b 1e3bV 1e3cM1e3d 1e3dV 1e3eM1e3f ",
    "1e3fV 1e40M1e41 1e41V 1e42M1e43 1e43V 1e44M1e45 1e45V 1e46M1e47 1e47V 1e48M1e49 1e49V 1e4aM1e4b ",
    "1e4bV 1e4cM1e4d 1e4dV 1e4eM1e4f 1e4fV 1e50M1e51 1e51V 1e52M1e53 1e53V 1e54M1e55 1e55V 1e56M1e57 ",
    "1e57V 1e58M1e59 1e59V 1e5aM1e5b 1e5bV 1e5cM1e5d 1e5dV 1e5eM1e5f 1e5fV 1e60M1e61 1e61V 1e62M1e63 ",
    "1e63V 1e64M1e65 1e65V 1e66M1e67 1e67V 1e68M1e69 1e69V 1e6aM1e6b 1e6bV 1e6cM1e6d 1e6dV 1e6eM1e6f ",
    "1e6fV 1e70M1e71 1e71V 1e72M1e73 1e73V 1e74M1e75 1e75V 1e76M1e77 1e77V 1e78M1e79 1e79V 1e7aM1e7b ",
    "1e7bV 1e7cM1e7d 1e7dV 1e7eM1e7f 1e7fV 1e80M1e81 1e81V 1e82M1e83 1e83V 1e84M1e85 1e85V 1e86M1e87 ",
    "1e87V 1e88M1e89 1e89V 1e8aM1e8b 1e8bV 1e8cM1e8d 1e8dV 1e8eM1e8f 1e8fV 1e90M1e91 1e91V 1e92M1e93 ",
    "1e93V 1e94M1e95 1e95V 1e9aM61,2be 1e9bM1e61 1e9cV 1e9eMdf 1e9fV 1ea0M1ea1 1ea1V 1ea2M1ea3 1ea3V ",
    "1ea4M1ea5 1ea5V 1ea6M1ea7 1ea7V 1ea8M1ea9 1ea9V 1eaaM1eab 1eabV 1eacM1ead 1eadV 1eaeM1eaf 1eafV ",
    "1eb0M1eb1 1eb1V 1eb2M1eb3 1eb3V 1eb4M1eb5 1eb5V 1eb6M1eb7 1eb7V 1eb8M1eb9 1eb9V 1ebaM1ebb 1ebbV ",
    "1ebcM1ebd 1ebdV 1ebeM1ebf 1ebfV 1ec0M1ec1 1ec1V 1ec2M1ec3 1ec3V 1ec4M1ec5 1ec5V 1ec6M1ec7 1ec7V ",
    "1ec8M1ec9 1ec9V 1ecaM1ecb 1ecbV 1eccM1ecd 1ecdV 1eceM1ecf 1ecfV 1ed0M1ed1 1ed1V 1ed2M1ed3 1ed3V ",
    "1ed4M1ed5 1ed5V 1ed6M1ed7 1ed7V 1ed8M1ed9 1ed9V 1edaM1edb 1edbV 1edcM1edd 1eddV 1edeM1edf 1edfV ",
    "1ee0M1ee1 1ee1V 1ee2M1ee3 1ee3V 1ee4M1ee5 1ee5V 1ee6M1ee7 1ee7V 1ee8M1ee9 1ee9V 1eeaM1eeb 1eebV ",
    "1eecM1eed 1eedV 1eeeM1eef 1eefV 1ef0M1ef1 1ef1V 1ef2M1ef3 1ef3V 1ef4M1ef5 1ef5V 1ef6M1ef7 1ef7V ",
    "1ef8M1ef9 1ef9V 1efaM1efb 1efbV 1efcM1efd 1efdV 1efeM1eff 1effV 1f08M1f00 1f09M1f01 1f0aM1f02 ",
    "1f0bM1f03 1f0cM1f04 1f0dM1f05 1f0eM1f06 1f0fM1f07 1f10V 1f16X 1f18M1f10 1f19M1f11 1f1aM1f12 ",
    "1f1bM1f13 1f1cM1f14 1f1dM1f15 1f1eX 1f20V 1f28M1f20 1f29M1f21 1f2aM1f22 1f2bM1f23 1f2cM1f24 ",
    "1f2dM1f25 1f2eM1f26 1f2fM1f27 1f30V 1f38M1f30 1f39M1f31 1f3aM1f32 1f3bM1f33 1f3cM1f34 1f3dM1f35 ",
    "1f3eM1f36 1f3fM1f37 1f40V 1f46X 1f48M1f40 1f49M1f41 1f4aM1f42 1f4bM1f43 1f4cM1f44 1f4dM1f45 ",
    "1f4eX 1f50V 1f58X 1f59M1f51 1f5aX 1f5bM1f53 1f5cX 1f5dM1f55 1f5eX 1f5fM1f57 1f60V 1f68M1f60 ",
    "1f69M1f61 1f6aM1f62 1f6bM1f63 1f6cM1f64 1f6dM1f65 1f6eM1f66 1f6fM1f67 1f70V 1f71M3ac 1f72V ",
    "1f73M3ad 1f74V 1f75M3ae 1f76V 1f77M3af 1f78V 1f79M3cc 1f7aV 1f7bM3cd 1f7cV 1f7dM3ce 1f7eX ",
    "1f80M1f00,3b9 1f81M1f01,3b9 1f82M1f02,3b9 1f83M1f03,3b9 1f84M1f04,3b9 1f85M1f05,3b9 ",
    "1f86M1f06,3b9 1f87M1f07,3b9 1f88M1f00,3b9 1f89M1f01,3b9 1f8aM1f02,3b9 1f8bM1f03,3b9 ",
    "1f8cM1f04,3b9 1f8dM1f05,3b9 1f8eM1f06,3b9 1f8fM1f07,3b9 1f90M1f20,3b9 1f91M1f21,3b9 ",
    "1f92M1f22,3b9 1f93M1f23,3b9 1f94M1f24,3b9 1f95M1f25,3b9 1f96M1f26,3b9 1f97M1f27,3b9 ",
    "1f98M1f20,3b9 1f99M1f21,3b9 1f9aM1f22,3b9 1f9bM1f23,3b9 1f9cM1f24,3b9 1f9dM1f25,3b9 ",
    "1f9eM1f26,3b9 1f9fM1f27,3b9 1fa0M1f60,3b9 1fa1M1f61,3b9 1fa2M1f62,3b9 1fa3M1f63,3b9 ",
    "1fa4M1f64,3b9 1fa5M1f65,3b9 1fa6M1f66,3b9 1fa7M1f67,3b9 1fa8M1f60,3b9 1fa9M1f61,3b9 ",
    "1faaM1f62,3b9 1fabM1f63,3b9 1facM1f64,3b9 1fadM1f65,3b9 1faeM1f66,3b9 1fafM1f67,3b9 1fb0V ",
    "1fb2M1f70,3b9 1fb3M3b1,3b9 1fb4M3ac,3b9 1fb5X 1fb6V 1fb7M1fb6,3b9 1fb8M1fb0 1fb9M1fb1 1fbaM1f70 ",
    "1fbbM3ac 1fbcM3b1,3b9 1fbdM20,313 1fbeM3b9 1fbfM20,313 1fc0M20,342 1fc1M20,308,342 1fc2M1f74,3b9 ",
    "1fc3M3b7,3b9 1fc4M3ae,3b9 1fc5X 1fc6V 1fc7M1fc6,3b9 1fc8M1f72 1fc9M3ad 1fcaM1f74 1fcbM3ae ",
    "1fccM3b7,3b9 1fcdM20,313,300 1fceM20,313,301 1fcfM20,313,342 1fd0V 1fd3M390 1fd4X 1fd6V ",
    "1fd8M1fd0 1fd9M1fd1 1fdaM1f76 1fdbM3af 1fdcX 1fddM20,314,300 1fdeM20,314,301 1fdfM20,314,342 ",
    "1fe0V 1fe3M3b0 1fe4V 1fe8M1fe0 1fe9M1fe1 1feaM1f7a 1febM3cd 1fecM1fe5 1fedM20,308,300 ",
    "1feeM20,308,301 1fefM60 1ff0X 1ff2M1f7c,3b9 1ff3M3c9,3b9 1ff4M3ce,3b9 1ff5X 1ff6V 1ff7M1ff6,3b9 ",
    "1ff8M1f78 1ff9M3cc 1ffaM1f7c 1ffbM3ce 1ffcM3c9,3b9 1ffdM20,301 1ffeM20,314 1fffX 2000M20 200bI ",
    "200cD 200eX 2010V 2011M2010 2012V 2017M20,333 2018V 2024X 2027V 2028X 202fM20 2030V ",
    "2033M2032,2032 2034M2032,2032,2032 2035V 2036M2035,2035 2037M2035,2035,2035 2038V 203cM21,21 ",
    "203dV 203eM20,305 203fV 2047M3f,3f 2048M3f,21 2049M21,3f 204aV 2057M2032,2032,2032,2032 2058V ",
    "205fM20 2060I 2065X 206aI 2070M30 2071M69 2072X 2074M34 2075M35 2076M36 2077M37 2078M38 2079M39 ",
    "207aM2b 207bM2212 207cM3d 207dM28 207eM29 207fM6e 2080M30 2081M31 2082M32 2083M33 2084M34 ",
    "2085M35 2086M36 2087M37 2088M38 2089M39 208aM2b 208bM2212 208cM3d 208dM28 208eM29 208fX 2090M61 ",
    "2091M65 2092M6f 2093M78 2094M259 2095M68 2096M6b 2097M6c 2098M6d 2099M6e 209aM70 209bM73 209cM74 ",
    "209dX 20a0V 20a8M72,73 20a9V 20c2X 20d0V 20f1X 2100M61,2f,63 2101M61,2f,73 2102M63 2103Mb0,63 ",
    "2104V 2105M63,2f,6f 2106M63,2f,75 2107M25b 2108V 2109Mb0,66 210aM67 210bM68 210fM127 2110M69 ",
    "2112M6c 2114V 2115M6e 2116M6e,6f 2117V 2119M70 211aM71 211bM72 211eV 2120M73,6d 2121M74,65,6c ",
    "2122M74,6d 2123V 2124M7a 2125V 2126M3c9 2127V 2128M7a 2129V 212aM6b 212bMe5 212cM62 212dM63 ",
    "212eV 212fM65 2131M66 2132M214e 2133M6d 2134M6f 2135M5d0 2136M5d1 2137M5d2 2138M5d3 2139M69 ",
    "213aV 213bM66,61,78 213cM3c0 213dM3b3 213fM3c0 2140M2211 2141V 2145M64 2147M65 2148M69 2149M6a ",
    "214aV 2150M31,2044,37 2151M31,2044,39 2152M31,2044,31,30 2153M31,2044,33 2154M32,2044,33 ",
    "2155M31,2044,35 2156M32,2044,35 2157M33,2044,35 2158M34,2044,35 2159M31,2044,36 215aM35,2044,36 ",
    "215bM31,2044,38 215cM33,2044,38 215dM35,2044,38 215eM37,2044,38 215fM31,2044 2160M69 2161M69,69 ",
    "2162M69,69,69 2163M69,76 2164M76 2165M76,69 2166M76,69,69 2167M76,69,69,69 2168M69,78 2169M78 ",
    "216aM78,69 216bM78,69,69 216cM6c 216dM63 216eM64 216fM6d 2170M69 2171M69,69 2172M69,69,69 ",
    "2173M69,76 2174M76 2175M76,69 2176M76,69,69 2177M76,69,69,69 2178M69,78 2179M78 217aM78,69 ",
    "217bM78,69,69 217cM6c 217dM63 217eM64 217fM6d 2180V 2183M2184 2184V 2189M30,2044,33 218aV 218cX ",
    "2190V 222cM222b,222b 222dM222b,222b,222b 222eV 222fM222e,222e 2230M222e,222e,222e 2231V ",
    "2329M3008 232aM3009 232bV 242aX 2440V 244bX 2460M31 2461M32 2462M33 2463M34 2464M35 2465M36 ",
    "2466M37 2467M38 2468M39 2469M31,30 246aM31,31 246bM31,32 246cM31,33 246dM31,34 246eM31,35 ",
    "246fM31,36 2470M31,37 2471M31,38 2472M31,39 2473M32,30 2474M28,31,29 2475M28,32,29 2476M28,33,29 ",
    "2477M28,34,29 2478M28,35,29 2479M28,36,29 247aM28,37,29 247bM28,38,29 247cM28,39,29 ",
    "247dM28,31,30,29 247eM28,31,31,29 247fM28,31,32,29 2480M28,31,33,29 2481M28,31,34,29 ",
    "2482M28,31,35,29 2483M28,31,36,29 2484M28,31,37,29 2485M28,31,38,29 2486M28,31,39,29 ",
    "2487M28,32,30,29 2488X 249cM28,61,29 249dM28,62,29 249eM28,63,29 249fM28,64,29 24a0M28,65,29 ",
    "24a1M28,66,29 24a2M28,67,29 24a3M28,68,29 24a4M28,69,29 24a5M28,6a,29 24a6M28,6b,29 ",
    "24a7M28,6c,29 24a8M28,6d,29 24a9M28,6e,29 24aaM28,6f,29 24abM28,70,29 24acM28,71,29 ",
    "24adM28,72,29 24aeM28,73,29 24afM28,74,29 24b0M28,75,29 24b1M28,76,29 24b2M28,77,29 ",
    "24b3M28,78,29 24b4M28,79,29 24b5M28,7a,29 24b6M61 24b7M62 24b8M63 24b9M64 24baM65 24bbM66 ",
    "24bcM67 24bdM68 24beM69 24bfM6a 24c0M6b 24c1M6c 24c2M6d 24c3M6e 24c4M6f 24c5M70 24c6M71 24c7M72 ",
    "24c8M73 24c9M74 24caM75 24cbM76 24ccM77 24cdM78 24ceM79 24cfM7a 24d0M61 24d1M62 24d2M63 24d3M64 ",
    "24d4M65 24d5M66 24d6M67 24d7M68 24d8M69 24d9M6a 24daM6b 24dbM6c 24dcM6d 24ddM6e 24deM6f 24dfM70 ",
    "24e0M71 24e1M72 24e2M73 24e3M74 24e4M75 24e5M76 24e6M77 24e7M78 24e8M79 24e9M7a 24eaM30 24ebV ",
    "2a0cM222b,222b,222b,222b 2a0dV 2a74M3a,3a,3d 2a75M3d,3d 2a76M3d,3d,3d 2a77V 2adcM2add,338 2addV ",
    "2b74X 2b76V 2c00M2c30 2c01M2c31 2c02M2c32 2c03M2c33 2c04M2c34 2c05M2c35 2c06M2c36 2c07M2c37 ",
    "2c08M2c38 2c09M2c39 2c0aM2c3a 2c0bM2c3b 2c0cM2c3c 2c0dM2c3d 2c0eM2c3e 2c0fM2c3f 2c10M2c40 ",
    "2c11M2c41 2c12M2c42 2c13M2c43 2c14M2c44 2c15M2c45 2c16M2c46 2c17M2c47 2c18M2c48 2c19M2c49 ",
    "2c1aM2c4a 2c1bM2c4b 2c1cM2c4c 2c1dM2c4d 2c1eM2c4e 2c1fM2c4f 2c20M2c50 2c21M2c51 2c22M2c52 ",
    "2c23M2c53 2c24M2c54 2c25M2c55 2c26M2c56 2c27M2c57 2c28M2c58 2c29M2c59 2c2aM2c5a 2c2bM2c5b ",
    "2c2cM2c5c 2c2dM2c5d 2c2eM2c5e 2c2fM2c5f 2c30V 2c60M2c61 2c61V 2c62M26b 2c63M1d7d 2c64M27d 2c65V ",
    "2c67M2c68 2c68V 2c69M2c6a 2c6aV 2c6bM2c6c 2c6cV 2c6dM251 2c6eM271 2c6fM250 2c70M252 2c71V ",
    "2c72M2c73 2c73V 2c75M2c76 2c76V 2c7cM6a 2c7dM76 2c7eM23f 2c7fM240 2c80M2c81 2c81V 2c82M2c83 ",
    "2c83V 2c84M2c85 2c85V 2c86M2c87 2c87V 2c88M2c89 2c89V 2c8aM2c8b 2c8bV 2c8cM2c8d 2c8dV 2c8eM2c8f ",
    "2c8fV 2c90M2c91 2c91V 2c92M2c93 2c93V 2c94M2c95 2c95V 2c96M2c97 2c97V 2c98M2c99 2c99V 2c9aM2c9b ",
    "2c9bV 2c9cM2c9d 2c9dV 2c9eM2c9f 2c9fV 2ca0M2ca1 2ca1V 2ca2M2ca3 2ca3V 2ca4M2ca5 2ca5V 2ca6M2ca7 ",
    "2ca7V 2ca8M2ca9 2ca9V 2caaM2cab 2cabV 2cacM2cad 2cadV 2caeM2caf 2cafV 2cb0M2cb1 2cb1V 2cb2M2cb3 ",
    "2cb3V 2cb4M2cb5 2cb5V 2cb6M2cb7 2cb7V 2cb8M2cb9 2cb9V 2cbaM2cbb 2cbbV 2cbcM2cbd 2cbdV 2cbeM2cbf ",
    "2cbfV 2cc0M2cc1 2cc1V 2cc2M2cc3 2cc3V 2cc4M2cc5 2cc5V 2cc6M2cc7 2cc7V 2cc8M2cc9 2cc9V 2ccaM2ccb ",
    "2ccbV 2cccM2ccd 2ccdV 2cceM2ccf 2ccfV 2cd0M2cd1 2cd1V 2cd2M2cd3 2cd3V 2cd4M2cd5 2cd5V 2cd6M2cd7 ",
    "2cd7V 2cd8M2cd9 2cd9V 2cdaM2cdb 2cdbV 2cdcM2cdd 2cddV 2cdeM2cdf 2cdfV 2ce0M2ce1 2ce1V 2ce2M2ce3 ",
    "2ce3V 2cebM2cec 2cecV 2cedM2cee 2ceeV 2cf2M2cf3 2cf3V 2cf4X 2cf9V 2d26X 2d27V 2d28X 2d2dV 2d2eX ",
    "2d30V 2d68X 2d6fM2d61 2d70V 2d71X 2d7fV 2d97X 2da0V 2da7X 2da8V 2dafX 2db0V 2db7X 2db8V 2dbfX ",
    "2dc0V 2dc7X 2dc8V 2dcfX 2dd0V 2dd7X 2dd8V 2ddfX 2de0V 2e5eX 2e80V 2e9aX 2e9bV 2e9fM6bcd 2ea0V ",
    "2ef3M9f9f 2ef4X 2f00M4e00 2f01M4e28 2f02M4e36 2f03M4e3f 2f04M4e59 2f05M4e85 2f06M4e8c 2f07M4ea0 ",
    "2f08M4eba 2f09M513f 2f0aM5165 2f0bM516b 2f0cM5182 2f0dM5196 2f0eM51ab 2f0fM51e0 2f10M51f5 ",
    "2f11M5200 2f12M529b 2f13M52f9 2f14M5315 2f15M531a 2f16M5338 2f17M5341 2f18M535c 2f19M5369 ",
    "2f1aM5382 2f1bM53b6 2f1cM53c8 2f1dM53e3 2f1eM56d7 2f1fM571f 2f20M58eb 2f21M5902 2f22M590a ",
    "2f23M5915 2f24M5927 2f25M5973 2f26M5b50 2f27M5b80 2f28M5bf8 2f29M5c0f 2f2aM5c22 2f2bM5c38 ",
    "2f2cM5c6e 2f2dM5c71 2f2eM5ddb 2f2fM5de5 2f30M5df1 2f31M5dfe 2f32M5e72 2f33M5e7a 2f34M5e7f ",
    "2f35M5ef4 2f36M5efe 2f37M5f0b 2f38M5f13 2f39M5f50 2f3aM5f61 2f3bM5f73 2f3cM5fc3 2f3dM6208 ",
    "2f3eM6236 2f3fM624b 2f40M652f 2f41M6534 2f42M6587 2f43M6597 2f44M65a4 2f45M65b9 2f46M65e0 ",
    "2f47M65e5 2f48M66f0 2f49M6708 2f4aM6728 2f4bM6b20 2f4cM6b62 2f4dM6b79 2f4eM6bb3 2f4fM6bcb ",
    "2f50M6bd4 2f51M6bdb 2f52M6c0f 2f53M6c14 2f54M6c34 2f55M706b 2f56M722a 2f57M7236 2f58M723b ",
    "2f59M723f 2f5aM7247 2f5bM7259 2f5cM725b 2f5dM72ac 2f5eM7384 2f5fM7389 2f60M74dc 2f61M74e6 ",
    "2f62M7518 2f63M751f 2f64M7528 2f65M7530 2f66M758b 2f67M7592 2f68M7676 2f69M767d 2f6aM76ae ",
    "2f6bM76bf 2f6cM76ee 2f6dM77db 2f6eM77e2 2f6fM77f3 2f70M793a 2f71M79b8 2f72M79be 2f73M7a74 ",
    "2f74M7acb 2f75M7af9 2f76M7c73 2f77M7cf8 2f78M7f36 2f79M7f51 2f7aM7f8a 2f7bM7fbd 2f7cM8001 ",
    "2f7dM800c 2f7eM8012 2f7fM8033 2f80M807f 2f81M8089 2f82M81e3 2f83M81ea 2f84M81f3 2f85M81fc ",
    "2f86M820c 2f87M821b 2f88M821f 2f89M826e 2f8aM8272 2f8bM8278 2f8cM864d 2f8dM866b 2f8eM8840 ",
    "2f8fM884c 2f90M8863 2f91M897e 2f92M898b 2f93M89d2 2f94M8a00 2f95M8c37 2f96M8c46 2f97M8c55 ",
    "2f98M8c78 2f99M8c9d 2f9aM8d64 2f9bM8d70 2f9cM8db3 2f9dM8eab 2f9eM8eca 2f9fM8f9b 2fa0M8fb0 ",
    "2fa1M8fb5 2fa2M9091 2fa3M9149 2fa4M91c6 2fa5M91cc 2fa6M91d1 2fa7M9577 2fa8M9580 2fa9M961c ",
    "2faaM96b6 2fabM96b9 2facM96e8 2fadM9751 2faeM975e 2fafM9762 2fb0M9769 2fb1M97cb 2fb2M97ed ",
    "2fb3M97f3 2fb4M9801 2fb5M98a8 2fb6M98db 2fb7M98df 2fb8M9996 2fb9M9999 2fbaM99ac 2fbbM9aa8 ",
    "2fbcM9ad8 2fbdM9adf 2fbeM9b25 2fbfM9b2f 2fc0M9b32 2fc1M9b3c 2fc2M9b5a 2fc3M9ce5 2fc4M9e75 ",
    "2fc5M9e7f 2fc6M9ea5 2fc7M9ebb 2fc8M9ec3 2fc9M9ecd 2fcaM9ed1 2fcbM9ef9 2fccM9efd 2fcdM9f0e ",
    "2fceM9f13 2fcfM9f20 2fd0M9f3b 2fd1M9f4a 2fd2M9f52 2fd3M9f8d 2fd4M9f9c 2fd5M9fa0 2fd6X 3000M20 ",
    "3001V 3002M2e 3003V 3036M3012 3037V 3038M5341 3039M5344 303aM5345 303bV 3040X 3041V 3097X 3099V ",
    "309bM20,3099 309cM20,309a 309dV 309fM3088,308a 30a0V 30ffM30b3,30c8 3100X 3105V 3130X 3131M1100 ",
    "3132M1101 3133M11aa 3134M1102 3135M11ac 3136M11ad 3137M1103 3138M1104 3139M1105 313aM11b0 ",
    "313bM11b1 313cM11b2 313dM11b3 313eM11b4 313fM11b5 3140M111a 3141M1106 3142M1107 3143M1108 ",
    "3144M1121 3145M1109 3146M110a 3147M110b 3148M110c 3149M110d 314aM110e 314bM110f 314cM1110 ",
    "314dM1111 314eM1112 314fM1161 3150M1162 3151M1163 3152M1164 3153M1165 3154M1166 3155M1167 ",
    "3156M1168 3157M1169 3158M116a 3159M116b 315aM116c 315bM116d 315cM116e 315dM116f 315eM1170 ",
    "315fM1171 3160M1172 3161M1173 3162M1174 3163M1175 3164I 3165M1114 3166M1115 3167M11c7 3168M11c8 ",
    "3169M11cc 316aM11ce 316bM11d3 316cM11d7 316dM11d9 316eM111c 316fM11dd 3170M11df 3171M111d ",
    "3172M111e 3173M1120 3174M1122 3175M1123 3176M1127 3177M1129 3178M112b 3179M112c 317aM112d ",
    "317bM112e 317cM112f 317dM1132 317eM1136 317fM1140 3180M1147 3181M114c 3182M11f1 3183M11f2 ",
    "3184M1157 3185M1158 3186M1159 3187M1184 3188M1185 3189M1188 318aM1191 318bM1192 318cM1194 ",
    "318dM119e 318eM11a1 318fX 3190V 3192M4e00 3193M4e8c 3194M4e09 3195M56db 3196M4e0a 3197M4e2d ",
    "3198M4e0b 3199M7532 319aM4e59 319bM4e19 319cM4e01 319dM5929 319eM5730 319fM4eba 31a0V 31e6X ",
    "31f0V 3200M28,1100,29 3201M28,1102,29 3202M28,1103,29 3203M28,1105,29 3204M28,1106,29 ",
    "3205M28,1107,29 3206M28,1109,29 3207M28,110b,29 3208M28,110c,29 3209M28,110e,29 320aM28,110f,29 ",
    "320bM28,1110,29 320cM28,1111,29 320dM28,1112,29 320eM28,ac00,29 320fM28,b098,29 3210M28,b2e4,29 ",
    "3211M28,b77c,29 3212M28,b9c8,29 3213M28,bc14,29 3214M28,c0ac,29 3215M28,c544,29 3216M28,c790,29 ",
    "3217M28,cc28,29 3218M28,ce74,29 3219M28,d0c0,29 321aM28,d30c,29 321bM28,d558,29 321cM28,c8fc,29 ",
    "321dM28,c624,c804,29 321eM28,c624,d6c4,29 321fX 3220M28,4e00,29 3221M28,4e8c,29 3222M28,4e09,29 ",
    "3223M28,56db,29 3224M28,4e94,29 3225M28,516d,29 3226M28,4e03,29 3227M28,516b,29 3228M28,4e5d,29 ",
    "3229M28,5341,29 322aM28,6708,29 322bM28,706b,29 322cM28,6c34,29 322dM28,6728,29 322eM28,91d1,29 ",
    "322fM28,571f,29 3230M28,65e5,29 3231M28,682a,29 3232M28,6709,29 3233M28,793e,29 3234M28,540d,29 ",
    "3235M28,7279,29 3236M28,8ca1,29 3237M28,795d,29 3238M28,52b4,29 3239M28,4ee3,29 323aM28,547c,29 ",
    "323bM28,5b66,29 323cM28,76e3,29 323dM28,4f01,29 323eM28,8cc7,29 323fM28,5354,29 3240M28,796d,29 ",
    "3241M28,4f11,29 3242M28,81ea,29 3243M28,81f3,29 3244M554f 3245M5e7c 3246M6587 3247M7b8f 3248V ",
    "3250M70,74,65 3251M32,31 3252M32,32 3253M32,33 3254M32,34 3255M32,35 3256M32,36 3257M32,37 ",
    "3258M32,38 3259M32,39 325aM33,30 325bM33,31 325cM33,32 325dM33,33 325eM33,34 325fM33,35 ",
    "3260M1100 3261M1102 3262M1103 3263M1105 3264M1106 3265M1107 3266M1109 3267M110b 3268M110c ",
    "3269M110e 326aM110f 326bM1110 326cM1111 326dM1112 326eMac00 326fMb098 3270Mb2e4 3271Mb77c ",
    "3272Mb9c8 3273Mbc14 3274Mc0ac 3275Mc544 3276Mc790 3277Mcc28 3278Mce74 3279Md0c0 327aMd30c ",
    "327bMd558 327cMcc38,ace0 327dMc8fc,c758 327eMc6b0 327fV 3280M4e00 3281M4e8c 3282M4e09 3283M56db ",
    "3284M4e94 3285M516d 3286M4e03 3287M516b 3288M4e5d 3289M5341 328aM6708 328bM706b 328cM6c34 ",
    "328dM6728 328eM91d1 328fM571f 3290M65e5 3291M682a 3292M6709 3293M793e 3294M540d 3295M7279 ",
    "3296M8ca1 3297M795d 3298M52b4 3299M79d8 329aM7537 329bM5973 329cM9069 329dM512a 329eM5370 ",
    "329fM6ce8 32a0M9805 32a1M4f11 32a2M5199 32a3M6b63 32a4M4e0a 32a5M4e2d 32a6M4e0b 32a7M5de6 ",
    "32a8M53f3 32a9M533b 32aaM5b97 32abM5b66 32acM76e3 32adM4f01 32aeM8cc7 32afM5354 32b0M591c ",
    "32b1M33,36 32b2M33,37 32b3M33,38 32b4M33,39 32b5M34,30 32b6M34,31 32b7M34,32 32b8M34,33 ",
    "32b9M34,34 32baM34,35 32bbM34,36 32bcM34,37 32bdM34,38 32beM34,39 32bfM35,30 32c0M31,6708 ",
    "32c1M32,6708 32c2M33,6708 32c3M34,6708 32c4M35,6708 32c5M36,6708 32c6M37,6708 32c7M38,6708 ",
    "32c8M39,6708 32c9M31,30,6708 32caM31,31,6708 32cbM31,32,6708 32ccM68,67 32cdM65,72,67 32ceM65,76 ",
    "32cfM6c,74,64 32d0M30a2 32d1M30a4 32d2M30a6 32d3M30a8 32d4M30aa 32d5M30ab 32d6M30ad 32d7M30af ",
    "32d8M30b1 32d9M30b3 32daM30b5 32dbM30b7 32dcM30b9 32ddM30bb 32deM30bd 32dfM30bf 32e0M30c1 ",
    "32e1M30c4 32e2M30c6 32e3M30c8 32e4M30ca 32e5M30cb 32e6M30cc 32e7M30cd 32e8M30ce 32e9M30cf ",
    "32eaM30d2 32ebM30d5 32ecM30d8 32edM30db 32eeM30de 32efM30df 32f0M30e0 32f1M30e1 32f2M30e2 ",
    "32f3M30e4 32f4M30e6 32f5M30e8 32f6M30e9 32f7M30ea 32f8M30eb 32f9M30ec 32faM30ed 32fbM30ef ",
    "32fcM30f0 32fdM30f1 32feM30f2 32ffM4ee4,548c 3300M30a2,30d1,30fc,30c8 3301M30a2,30eb,30d5,30a1 ",
    "3302M30a2,30f3,30da,30a2 3303M30a2,30fc,30eb 3304M30a4,30cb,30f3,30b0 3305M30a4,30f3,30c1 ",
    "3306M30a6,30a9,30f3 3307M30a8,30b9,30af,30fc,30c9 3308M30a8,30fc,30ab,30fc 3309M30aa,30f3,30b9 ",
    "330aM30aa,30fc,30e0 330bM30ab,30a4,30ea 330cM30ab,30e9,30c3,30c8 330dM30ab,30ed,30ea,30fc ",
    "330eM30ac,30ed,30f3 330fM30ac,30f3,30de 3310M30ae,30ac 3311M30ae,30cb,30fc ",
    "3312M30ad,30e5,30ea,30fc 3313M30ae,30eb,30c0,30fc 3314M30ad,30ed 3315M30ad,30ed,30b0,30e9,30e0 ",
    "3316M30ad,30ed,30e1,30fc,30c8,30eb 3317M30ad,30ed,30ef,30c3,30c8 3318M30b0,30e9,30e0 ",
    "3319M30b0,30e9,30e0,30c8,30f3 331aM30af,30eb,30bc,30a4,30ed 331bM30af,30ed,30fc,30cd ",
    "331cM30b1,30fc,30b9 331dM30b3,30eb,30ca 331eM30b3,30fc,30dd 331fM30b5,30a4,30af,30eb ",
    "3320M30b5,30f3,30c1,30fc,30e0 3321M30b7,30ea,30f3,30b0 3322M30bb,30f3,30c1 3323M30bb,30f3,30c8 ",
    "3324M30c0,30fc,30b9 3325M30c7,30b7 3326M30c9,30eb 3327M30c8,30f3 3328M30ca,30ce ",
    "3329M30ce,30c3,30c8 332aM30cf,30a4,30c4 332bM30d1,30fc,30bb,30f3,30c8 332cM30d1,30fc,30c4 ",
    "332dM30d0,30fc,30ec,30eb 332eM30d4,30a2,30b9,30c8,30eb 332fM30d4,30af,30eb 3330M30d4,30b3 ",
    "3331M30d3,30eb 3332M30d5,30a1,30e9,30c3,30c9 3333M30d5,30a3,30fc,30c8 ",
    "3334M30d6,30c3,30b7,30a7,30eb 3335M30d5,30e9,30f3 3336M30d8,30af,30bf,30fc,30eb 3337M30da,30bd ",
    "3338M30da,30cb,30d2 3339M30d8,30eb,30c4 333aM30da,30f3,30b9 333bM30da,30fc,30b8 ",
    "333cM30d9,30fc,30bf 333dM30dd,30a4,30f3,30c8 333eM30dc,30eb,30c8 333fM30db,30f3 ",
    "3340M30dd,30f3,30c9 3341M30db,30fc,30eb 3342M30db,30fc,30f3 3343M30de,30a4,30af,30ed ",
    "3344M30de,30a4,30eb 3345M30de,30c3,30cf 3346M30de,30eb,30af 3347M30de,30f3,30b7,30e7,30f3 ",
    "3348M30df,30af,30ed,30f3 3349M30df,30ea 334aM30df,30ea,30d0,30fc,30eb 334bM30e1,30ac ",
    "334cM30e1,30ac,30c8,30f3 334dM30e1,30fc,30c8,30eb 334eM30e4,30fc,30c9 334fM30e4,30fc,30eb ",
    "3350M30e6,30a2,30f3 3351M30ea,30c3,30c8,30eb 3352M30ea,30e9 3353M30eb,30d4,30fc ",
    "3354M30eb,30fc,30d6,30eb 3355M30ec,30e0 3356M30ec,30f3,30c8,30b2,30f3 3357M30ef,30c3,30c8 ",
    "3358M30,70b9 3359M31,70b9 335aM32,70b9 335bM33,70b9 335cM34,70b9 335dM35,70b9 335eM36,70b9 ",
    "335fM37,70b9 3360M38,70b9 3361M39,70b9 3362M31,30,70b9 3363M31,31,70b9 3364M31,32,70b9 ",
    "3365M31,33,70b9 3366M31,34,70b9 3367M31,35,70b9 3368M31,36,70b9 3369M31,37,70b9 336aM31,38,70b9 ",
    "336bM31,39,70b9 336cM32,30,70b9 336dM32,31,70b9 336eM32,32,70b9 336fM32,33,70b9 3370M32,34,70b9 ",
    "3371M68,70,61 3372M64,61 3373M61,75 3374M62,61,72 3375M6f,76 3376M70,63 3377M64,6d 3378M64,6d,32 ",
    "3379M64,6d,33 337aM69,75 337bM5e73,6210 337cM662d,548c 337dM5927,6b63 337eM660e,6cbb ",
    "337fM682a,5f0f,4f1a,793e 3380M70,61 3381M6e,61 3382M3bc,61 3383M6d,61 3384M6b,61 3385M6b,62 ",
    "3386M6d,62 3387M67,62 3388M63,61,6c 3389M6b,63,61,6c 338aM70,66 338bM6e,66 338cM3bc,66 ",
    "338dM3bc,67 338eM6d,67 338fM6b,67 3390M68,7a 3391M6b,68,7a 3392M6d,68,7a 3393M67,68,7a ",
    "3394M74,68,7a 3395M3bc,6c 3396M6d,6c 3397M64,6c 3398M6b,6c 3399M66,6d 339aM6e,6d 339bM3bc,6d ",
    "339cM6d,6d 339dM63,6d 339eM6b,6d 339fM6d,6d,32 33a0M63,6d,32 33a1M6d,32 33a2M6b,6d,32 ",
    "33a3M6d,6d,33 33a4M63,6d,33 33a5M6d,33 33a6M6b,6d,33 33a7M6d,2215,73 33a8M6d,2215,73,32 ",
    "33a9M70,61 33aaM6b,70,61 33abM6d,70,61 33acM67,70,61 33adM72,61,64 33aeM72,61,64,2215,73 ",
    "33afM72,61,64,2215,73,32 33b0M70,73 33b1M6e,73 33b2M3bc,73 33b3M6d,73 33b4M70,76 33b5M6e,76 ",
    "33b6M3bc,76 33b7M6d,76 33b8M6b,76 33b9M6d,76 33baM70,77 33bbM6e,77 33bcM3bc,77 33bdM6d,77 ",
    "33beM6b,77 33bfM6d,77 33c0M6b,3c9 33c1M6d,3c9 33c2X 33c3M62,71 33c4M63,63 33c5M63,64 ",
    "33c6M63,2215,6b,67 33c7X 33c8M64,62 33c9M67,79 33caM68,61 33cbM68,70 33ccM69,6e 33cdM6b,6b ",
    "33ceM6b,6d 33cfM6b,74 33d0M6c,6d 33d1M6c,6e 33d2M6c,6f,67 33d3M6c,78 33d4M6d,62 33d5M6d,69,6c ",
    "33d6M6d,6f,6c 33d7M70,68 33d8X 33d9M70,70,6d 33daM70,72 33dbM73,72 33dcM73,76 33ddM77,62 ",
    "33deM76,2215,6d 33dfM61,2215,6d 33e0M31,65e5 33e1M32,65e5 33e2M33,65e5 33e3M34,65e5 33e4M35,65e5 ",
    "33e5M36,65e5 33e6M37,65e5 33e7M38,65e5 33e8M39,65e5 33e9M31,30,65e5 33eaM31,31,65e5 ",
    "33ebM31,32,65e5 33ecM31,33,65e5 33edM31,34,65e5 33eeM31,35,65e5 33efM31,36,65e5 33f0M31,37,65e5 ",
    "33f1M31,38,65e5 33f2M31,39,65e5 33f3M32,30,65e5 33f4M32,31,65e5 33f5M32,32,65e5 33f6M32,33,65e5 ",
    "33f7M32,34,65e5 33f8M32,35,65e5 33f9M32,36,65e5 33faM32,37,65e5 33fbM32,38,65e5 33fcM32,39,65e5 ",
    "33fdM33,30,65e5 33feM33,31,65e5 33ffM67,61,6c 3400V a48dX a490V a4c7X a4d0V a62cX a640Ma641 ",
    "a641V a642Ma643 a643V a644Ma645 a645V a646Ma647 a647V a648Ma649 a649V a64aMa64b a64bV a64cMa64d ",
    "a64dV a64eMa64f a64fV a650Ma651 a651V a652Ma653 a653V a654Ma655 a655V a656Ma657 a657V a658Ma659 ",
    "a659V a65aMa65b a65bV a65cMa65d a65dV a65eMa65f a65fV a660Ma661 a661V a662Ma663 a663V a664Ma665 ",
    "a665V a666Ma667 a667V a668Ma669 a669V a66aMa66b a66bV a66cMa66d a66dV a680Ma681 a681V a682Ma683 ",
    "a683V a684Ma685 a685V a686Ma687 a687V a688Ma689 a689V a68aMa68b a68bV a68cMa68d a68dV a68eMa68f ",
    "a68fV a690Ma691 a691V a692Ma693 a693V a694Ma695 a695V a696Ma697 a697V a698Ma699 a699V a69aMa69b ",
    "a69bV a69cM44a a69dM44c a69eV a6f8X a700V a722Ma723 a723V a724Ma725 a725V a726Ma727 a727V ",
    "a728Ma729 a729V a72aMa72b a72bV a72cMa72d a72dV a72eMa72f a72fV a732Ma733 a733V a734Ma735 a735V ",
    "a736Ma737 a737V a738Ma739 a739V a73aMa73b a73bV a73cMa73d a73dV a73eMa73f a73fV a740Ma741 a741V ",
    "a742Ma743 a743V a744Ma745 a745V a746Ma747 a747V a748Ma749 a749V a74aMa74b a74bV a74cMa74d a74dV ",
    "a74eMa74f a74fV a750Ma751 a751V a752Ma753 a753V a754Ma755 a755V a756Ma757 a757V a758Ma759 a759V ",
    "a75aMa75b a75bV a75cMa75d a75dV a75eMa75f a75fV a760Ma761 a761V a762Ma763 a763V a764Ma765 a765V ",
    "a766Ma767 a767V a768Ma769 a769V a76aMa76b a76bV a76cMa76d a76dV a76eMa76f a76fV a770Ma76f a771V ",
    "a779Ma77a a77aV a77bMa77c a77cV a77dM1d79 a77eMa77f a77fV a780Ma781 a781V a782Ma783 a783V ",
    "a784Ma785 a785V a786Ma787 a787V a78bMa78c a78cV a78dM265 a78eV a790Ma791 a791V a792Ma793 a793V ",
    "a796Ma797 a797V a798Ma799 a799V a79aMa79b a79bV a79cMa79d a79dV a79eMa79f a79fV a7a0Ma7a1 a7a1V ",
    "a7a2Ma7a3 a7a3V a7a4Ma7a5 a7a5V a7a6Ma7a7 a7a7V a7a8Ma7a9 a7a9V a7aaM266 a7abM25c a7acM261 ",
    "a7adM26c a7aeM26a a7afV a7b0M29e a7b1M287 a7b2M29d a7b3Mab53 a7b4Ma7b5 a7b5V a7b6Ma7b7 a7b7V ",
    "a7b8Ma7b9 a7b9V a7baMa7bb a7bbV a7bcMa7bd a7bdV a7beMa7bf a7bfV a7c0Ma7c1 a7c1V a7c2Ma7c3 a7c3V ",
    "a7c4Ma794 a7c5M282 a7c6M1d8e a7c7Ma7c8 a7c8V a7c9Ma7ca a7caV a7cbM264 a7ccMa7cd a7cdV a7ceMa7cf ",
    "a7cfV a7d0Ma7d1 a7d1V a7d2Ma7d3 a7d3V a7d4Ma7d5 a7d5V a7d6Ma7d7 a7d7V a7d8Ma7d9 a7d9V a7daMa7db ",
    "a7dbV a7dcM19b a7ddX a7f1M73 a7f2M63 a7f3M66 a7f4M71 a7f5Ma7f6 a7f6V a7f8M127 a7f9M153 a7faV ",
    "a82dX a830V a83aX a840V a878X a880V a8c6X a8ceV a8daX a8e0V a954X a95fV a97dX a980V a9ceX a9cfV ",
    "a9daX a9deV a9ffX aa00V aa37X aa40V aa4eX aa50V aa5aX aa5cV aac3X aadbV aaf7X ab01V ab07X ab09V ",
    "ab0fX ab11V ab17X ab20V ab27X ab28V ab2fX ab30V ab5cMa727 ab5dMab37 ab5eM26b ab5fMab52 ab60V ",
    "ab69M28d ab6aV ab6cX ab70M13a0 ab71M13a1 ab72M13a2 ab73M13a3 ab74M13a4 ab75M13a5 ab76M13a6 ",
    "ab77M13a7 ab78M13a8 ab79M13a9 ab7aM13aa ab7bM13ab ab7cM13ac ab7dM13ad ab7eM13ae ab7fM13af ",
    "ab80M13b0 ab81M13b1 ab82M13b2 ab83M13b3 ab84M13b4 ab85M13b5 ab86M13b6 ab87M13b7 ab88M13b8 ",
    "ab89M13b9 ab8aM13ba ab8bM13bb ab8cM13bc ab8dM13bd ab8eM13be ab8fM13bf ab90M13c0 ab91M13c1 ",
    "ab92M13c2 ab93M13c3 ab94M13c4 ab95M13c5 ab96M13c6 ab97M13c7 ab98M13c8 ab99M13c9 ab9aM13ca ",
    "ab9bM13cb ab9cM13cc ab9dM13cd ab9eM13ce ab9fM13cf aba0M13d0 aba1M13d1 aba2M13d2 aba3M13d3 ",
    "aba4M13d4 aba5M13d5 aba6M13d6 aba7M13d7 aba8M13d8 aba9M13d9 abaaM13da ababM13db abacM13dc ",
    "abadM13dd abaeM13de abafM13df abb0M13e0 abb1M13e1 abb2M13e2 abb3M13e3 abb4M13e4 abb5M13e5 ",
    "abb6M13e6 abb7M13e7 abb8M13e8 abb9M13e9 abbaM13ea abbbM13eb abbcM13ec abbdM13ed abbeM13ee ",
    "abbfM13ef abc0V abeeX abf0V abfaX ac00V d7a4X d7b0V d7c7X d7cbV d7fcX f900M8c48 f901M66f4 ",
    "f902M8eca f903M8cc8 f904M6ed1 f905M4e32 f906M53e5 f907M9f9c f909M5951 f90aM91d1 f90bM5587 ",
    "f90cM5948 f90dM61f6 f90eM7669 f90fM7f85 f910M863f f911M87ba f912M88f8 f913M908f f914M6a02 ",
    "f915M6d1b f916M70d9 f917M73de f918M843d f919M916a f91aM99f1 f91bM4e82 f91cM5375 f91dM6b04 ",
    "f91eM721b f91fM862d f920M9e1e f921M5d50 f922M6feb f923M85cd f924M8964 f925M62c9 f926M81d8 ",
    "f927M881f f928M5eca f929M6717 f92aM6d6a f92bM72fc f92cM90ce f92dM4f86 f92eM51b7 f92fM52de ",
    "f930M64c4 f931M6ad3 f932M7210 f933M76e7 f934M8001 f935M8606 f936M865c f937M8def f938M9732 ",
    "f939M9b6f f93aM9dfa f93bM788c f93cM797f f93dM7da0 f93eM83c9 f93fM9304 f940M9e7f f941M8ad6 ",
    "f942M58df f943M5f04 f944M7c60 f945M807e f946M7262 f947M78ca f948M8cc2 f949M96f7 f94aM58d8 ",
    "f94bM5c62 f94cM6a13 f94dM6dda f94eM6f0f f94fM7d2f f950M7e37 f951M964b f952M52d2 f953M808b ",
    "f954M51dc f955M51cc f956M7a1c f957M7dbe f958M83f1 f959M9675 f95aM8b80 f95bM62cf f95cM6a02 ",
    "f95dM8afe f95eM4e39 f95fM5be7 f960M6012 f961M7387 f962M7570 f963M5317 f964M78fb f965M4fbf ",
    "f966M5fa9 f967M4e0d f968M6ccc f969M6578 f96aM7d22 f96bM53c3 f96cM585e f96dM7701 f96eM8449 ",
    "f96fM8aaa f970M6bba f971M8fb0 f972M6c88 f973M62fe f974M82e5 f975M63a0 f976M7565 f977M4eae ",
    "f978M5169 f979M51c9 f97aM6881 f97bM7ce7 f97cM826f f97dM8ad2 f97eM91cf f97fM52f5 f980M5442 ",
    "f981M5973 f982M5eec f983M65c5 f984M6ffe f985M792a f986M95ad f987M9a6a f988M9e97 f989M9ece ",
    "f98aM529b f98bM66c6 f98cM6b77 f98dM8f62 f98eM5e74 f98fM6190 f990M6200 f991M649a f992M6f23 ",
    "f993M7149 f994M7489 f995M79ca f996M7df4 f997M806f f998M8f26 f999M84ee f99aM9023 f99bM934a ",
    "f99cM5217 f99dM52a3 f99eM54bd f99fM70c8 f9a0M88c2 f9a1M8aaa f9a2M5ec9 f9a3M5ff5 f9a4M637b ",
    "f9a5M6bae f9a6M7c3e f9a7M7375 f9a8M4ee4 f9a9M56f9 f9aaM5be7 f9abM5dba f9acM601c f9adM73b2 ",
    "f9aeM7469 f9afM7f9a f9b0M8046 f9b1M9234 f9b2M96f6 f9b3M9748 f9b4M9818 f9b5M4f8b f9b6M79ae ",
    "f9b7M91b4 f9b8M96b8 f9b9M60e1 f9baM4e86 f9bbM50da f9bcM5bee f9bdM5c3f f9beM6599 f9bfM6a02 ",
    "f9c0M71ce f9c1M7642 f9c2M84fc f9c3M907c f9c4M9f8d f9c5M6688 f9c6M962e f9c7M5289 f9c8M677b ",
    "f9c9M67f3 f9caM6d41 f9cbM6e9c f9ccM7409 f9cdM7559 f9ceM786b f9cfM7d10 f9d0M985e f9d1M516d ",
    "f9d2M622e f9d3M9678 f9d4M502b f9d5M5d19 f9d6M6dea f9d7M8f2a f9d8M5f8b f9d9M6144 f9daM6817 ",
    "f9dbM7387 f9dcM9686 f9ddM5229 f9deM540f f9dfM5c65 f9e0M6613 f9e1M674e f9e2M68a8 f9e3M6ce5 ",
    "f9e4M7406 f9e5M75e2 f9e6M7f79 f9e7M88cf f9e8M88e1 f9e9M91cc f9eaM96e2 f9ebM533f f9ecM6eba ",
    "f9edM541d f9eeM71d0 f9efM7498 f9f0M85fa f9f1M96a3 f9f2M9c57 f9f3M9e9f f9f4M6797 f9f5M6dcb ",
    "f9f6M81e8 f9f7M7acb f9f8M7b20 f9f9M7c92 f9faM72c0 f9fbM7099 f9fcM8b58 f9fdM4ec0 f9feM8336 ",
    "f9ffM523a fa00M5207 fa01M5ea6 fa02M62d3 fa03M7cd6 fa04M5b85 fa05M6d1e fa06M66b4 fa07M8f3b ",
    "fa08M884c fa09M964d fa0aM898b fa0bM5ed3 fa0cM5140 fa0dM55c0 fa0eV fa10M585a fa11V fa12M6674 ",
    "fa13V fa15M51de fa16M732a fa17M76ca fa18M793c fa19M795e fa1aM7965 fa1bM798f fa1cM9756 fa1dM7cbe ",
    "fa1eM7fbd fa1fV fa20M8612 fa21V fa22M8af8 fa23V fa25M9038 fa26M90fd fa27V fa2aM98ef fa2bM98fc ",
    "fa2cM9928 fa2dM9db4 fa2eM90de fa2fM96b7 fa30M4fae fa31M50e7 fa32M514d fa33M52c9 fa34M52e4 ",
    "fa35M5351 fa36M559d fa37M5606 fa38M5668 fa39M5840 fa3aM58a8 fa3bM5c64 fa3cM5c6e fa3dM6094 ",
    "fa3eM6168 fa3fM618e fa40M61f2 fa41M654f fa42M65e2 fa43M6691 fa44M6885 fa45M6d77 fa46M6e1a ",
    "fa47M6f22 fa48M716e fa49M722b fa4aM7422 fa4bM7891 fa4cM793e fa4dM7949 fa4eM7948 fa4fM7950 ",
    "fa50M7956 fa51M795d fa52M798d fa53M798e fa54M7a40 fa55M7a81 fa56M7bc0 fa57M7df4 fa58M7e09 ",
    "fa59M7e41 fa5aM7f72 fa5bM8005 fa5cM81ed fa5dM8279 fa5fM8457 fa60M8910 fa61M8996 fa62M8b01 ",
    "fa63M8b39 fa64M8cd3 fa65M8d08 fa66M8fb6 fa67M9038 fa68M96e3 fa69M97ff fa6aM983b fa6bM6075 ",
    "fa6cM242ee fa6dM8218 fa6eX fa70M4e26 fa71M51b5 fa72M5168 fa73M4f80 fa74M5145 fa75M5180 fa76M52c7 ",
    "fa77M52fa fa78M559d fa79M5555 fa7aM5599 fa7bM55e2 fa7cM585a fa7dM58b3 fa7eM5944 fa7fM5954 ",
    "fa80M5a62 fa81M5b28 fa82M5ed2 fa83M5ed9 fa84M5f69 fa85M5fad fa86M60d8 fa87M614e fa88M6108 ",
    "fa89M618e fa8aM6160 fa8bM61f2 fa8cM6234 fa8dM63c4 fa8eM641c fa8fM6452 fa90M6556 fa91M6674 ",
    "fa92M6717 fa93M671b fa94M6756 fa95M6b79 fa96M6bba fa97M6d41 fa98M6edb fa99M6ecb fa9aM6f22 ",
    "fa9bM701e fa9cM716e fa9dM77a7 fa9eM7235 fa9fM72af faa0M732a faa1M7471 faa2M7506 faa3M753b ",
    "faa4M761d faa5M761f faa6M76ca faa7M76db faa8M76f4 faa9M774a faaaM7740 faabM78cc faacM7ab1 ",
    "faadM7bc0 faaeM7c7b faafM7d5b fab0M7df4 fab1M7f3e fab2M8005 fab3M8352 fab4M83ef fab5M8779 ",
    "fab6M8941 fab7M8986 fab8M8996 fab9M8abf fabaM8af8 fabbM8acb fabcM8b01 fabdM8afe fabeM8aed ",
    "fabfM8b39 fac0M8b8a fac1M8d08 fac2M8f38 fac3M9072 fac4M9199 fac5M9276 fac6M967c fac7M96e3 ",
    "fac8M9756 fac9M97db facaM97ff facbM980b faccM983b facdM9b12 faceM9f9c facfM2284a fad0M22844 ",
    "fad1M233d5 fad2M3b9d fad3M4018 fad4M4039 fad5M25249 fad6M25cd0 fad7M27ed3 fad8M9f43 fad9M9f8e ",
    "fadaX fb00M66,66 fb01M66,69 fb02M66,6c fb03M66,66,69 fb04M66,66,6c fb05M73,74 fb07X fb13M574,576 ",
    "fb14M574,565 fb15M574,56b fb16M57e,576 fb17M574,56d fb18X fb1dM5d9,5b4 fb1eV fb1fM5f2,5b7 ",
    "fb20M5e2 fb21M5d0 fb22M5d3 fb23M5d4 fb24M5db fb25M5dc fb26M5dd fb27M5e8 fb28M5ea fb29M2b ",
    "fb2aM5e9,5c1 fb2bM5e9,5c2 fb2cM5e9,5bc,5c1 fb2dM5e9,5bc,5c2 fb2eM5d0,5b7 fb2fM5d0,5b8 ",
    "fb30M5d0,5bc fb31M5d1,5bc fb32M5d2,5bc fb33M5d3,5bc fb34M5d4,5bc fb35M5d5,5bc fb36M5d6,5bc fb37X ",
    "fb38M5d8,5bc fb39M5d9,5bc fb3aM5da,5bc fb3bM5db,5bc fb3cM5dc,5bc fb3dX fb3eM5de,5bc fb3fX ",
    "fb40M5e0,5bc fb41M5e1,5bc fb42X fb43M5e3,5bc fb44M5e4,5bc fb45X fb46M5e6,5bc fb47M5e7,5bc ",
    "fb48M5e8,5bc fb49M5e9,5bc fb4aM5ea,5bc fb4bM5d5,5b9 fb4cM5d1,5bf fb4dM5db,5bf fb4eM5e4,5bf ",
    "fb4fM5d0,5dc fb50M671 fb52M67b fb56M67e fb5aM680 fb5eM67a fb62M67f fb66M679 fb6aM6a4 fb6eM6a6 ",
    "fb72M684 fb76M683 fb7aM686 fb7eM687 fb82M68d fb84M68c fb86M68e fb88M688 fb8aM698 fb8cM691 ",
    "fb8eM6a9 fb92M6af fb96M6b3 fb9aM6b1 fb9eM6ba fba0M6bb fba4M6c0 fba6M6c1 fbaaM6be fbaeM6d2 ",
    "fbb0M6d3 fbb2V fbd3M6ad fbd7M6c7 fbd9M6c6 fbdbM6c8 fbddM6c7,674 fbdeM6cb fbe0M6c5 fbe2M6c9 ",
    "fbe4M6d0 fbe8M649 fbeaM626,627 fbecM626,6d5 fbeeM626,648 fbf0M626,6c7 fbf2M626,6c6 fbf4M626,6c8 ",
    "fbf6M626,6d0 fbf9M626,649 fbfcM6cc fc00M626,62c fc01M626,62d fc02M626,645 fc03M626,649 ",
    "fc04M626,64a fc05M628,62c fc06M628,62d fc07M628,62e fc08M628,645 fc09M628,649 fc0aM628,64a ",
    "fc0bM62a,62c fc0cM62a,62d fc0dM62a,62e fc0eM62a,645 fc0fM62a,649 fc10M62a,64a fc11M62b,62c ",
    "fc12M62b,645 fc13M62b,649 fc14M62b,64a fc15M62c,62d fc16M62c,645 fc17M62d,62c fc18M62d,645 ",
    "fc19M62e,62c fc1aM62e,62d fc1bM62e,645 fc1cM633,62c fc1dM633,62d fc1eM633,62e fc1fM633,645 ",
    "fc20M635,62d fc21M635,645 fc22M636,62c fc23M636,62d fc24M636,62e fc25M636,645 fc26M637,62d ",
    "fc27M637,645 fc28M638,645 fc29M639,62c fc2aM639,645 fc2bM63a,62c fc2cM63a,645 fc2dM641,62c ",
    "fc2eM641,62d fc2fM641,62e fc30M641,645 fc31M641,649 fc32M641,64a fc33M642,62d fc34M642,645 ",
    "fc35M642,649 fc36M642,64a fc37M643,627 fc38M643,62c fc39M643,62d fc3aM643,62e fc3bM643,644 ",
    "fc3cM643,645 fc3dM643,649 fc3eM643,64a fc3fM644,62c fc40M644,62d fc41M644,62e fc42M644,645 ",
    "fc43M644,649 fc44M644,64a fc45M645,62c fc46M645,62d fc47M645,62e fc48M645,645 fc49M645,649 ",
    "fc4aM645,64a fc4bM646,62c fc4cM646,62d fc4dM646,62e fc4eM646,645 fc4fM646,649 fc50M646,64a ",
    "fc51M647,62c fc52M647,645 fc53M647,649 fc54M647,64a fc55M64a,62c fc56M64a,62d fc57M64a,62e ",
    "fc58M64a,645 fc59M64a,649 fc5aM64a,64a fc5bM630,670 fc5cM631,670 fc5dM649,670 fc5eM20,64c,651 ",
    "fc5fM20,64d,651 fc60M20,64e,651 fc61M20,64f,651 fc62M20,650,651 fc63M20,651,670 fc64M626,631 ",
    "fc65M626,632 fc66M626,645 fc67M626,646 fc68M626,649 fc69M626,64a fc6aM628,631 fc6bM628,632 ",
    "fc6cM628,645 fc6dM628,646 fc6eM628,649 fc6fM628,64a fc70M62a,631 fc71M62a,632 fc72M62a,645 ",
    "fc73M62a,646 fc74M62a,649 fc75M62a,64a fc76M62b,631 fc77M62b,632 fc78M62b,645 fc79M62b,646 ",
    "fc7aM62b,649 fc7bM62b,64a fc7cM641,649 fc7dM641,64a fc7eM642,649 fc7fM642,64a fc80M643,627 ",
    "fc81M643,644 fc82M643,645 fc83M643,649 fc84M643,64a fc85M644,645 fc86M644,649 fc87M644,64a ",
    "fc88M645,627 fc89M645,645 fc8aM646,631 fc8bM646,632 fc8cM646,645 fc8dM646,646 fc8eM646,649 ",
    "fc8fM646,64a fc90M649,670 fc91M64a,631 fc92M64a,632 fc93M64a,645 fc94M64a,646 fc95M64a,649 ",
    "fc96M64a,64a fc97M626,62c fc98M626,62d fc99M626,62e fc9aM626,645 fc9bM626,647 fc9cM628,62c ",
    "fc9dM628,62d fc9eM628,62e fc9fM628,645 fca0M628,647 fca1M62a,62c fca2M62a,62d fca3M62a,62e ",
    "fca4M62a,645 fca5M62a,647 fca6M62b,645 fca7M62c,62d fca8M62c,645 fca9M62d,62c fcaaM62d,645 ",
    "fcabM62e,62c fcacM62e,645 fcadM633,62c fcaeM633,62d fcafM633,62e fcb0M633,645 fcb1M635,62d ",
    "fcb2M635,62e fcb3M635,645 fcb4M636,62c fcb5M636,62d fcb6M636,62e fcb7M636,645 fcb8M637,62d ",
    "fcb9M638,645 fcbaM639,62c fcbbM639,645 fcbcM63a,62c fcbdM63a,645 fcbeM641,62c fcbfM641,62d ",
    "fcc0M641,62e fcc1M641,645 fcc2M642,62d fcc3M642,645 fcc4M643,62c fcc5M643,62d fcc6M643,62e ",
    "fcc7M643,644 fcc8M643,645 fcc9M644,62c fccaM644,62d fccbM644,62e fcccM644,645 fccdM644,647 ",
    "fcceM645,62c fccfM645,62d fcd0M645,62e fcd1M645,645 fcd2M646,62c fcd3M646,62d fcd4M646,62e ",
    "fcd5M646,645 fcd6M646,647 fcd7M647,62c fcd8M647,645 fcd9M647,670 fcdaM64a,62c fcdbM64a,62d ",
    "fcdcM64a,62e fcddM64a,645 fcdeM64a,647 fcdfM626,645 fce0M626,647 fce1M628,645 fce2M628,647 ",
    "fce3M62a,645 fce4M62a,647 fce5M62b,645 fce6M62b,647 fce7M633,645 fce8M633,647 fce9M634,645 ",
    "fceaM634,647 fcebM643,644 fcecM643,645 fcedM644,645 fceeM646,645 fcefM646,647 fcf0M64a,645 ",
    "fcf1M64a,647 fcf2M640,64e,651 fcf3M640,64f,651 fcf4M640,650,651 fcf5M637,649 fcf6M637,64a ",
    "fcf7M639,649 fcf8M639,64a fcf9M63a,649 fcfaM63a,64a fcfbM633,649 fcfcM633,64a fcfdM634,649 ",
    "fcfeM634,64a fcffM62d,649 fd00M62d,64a fd01M62c,649 fd02M62c,64a fd03M62e,649 fd04M62e,64a ",
    "fd05M635,649 fd06M635,64a fd07M636,649 fd08M636,64a fd09M634,62c fd0aM634,62d fd0bM634,62e ",
    "fd0cM634,645 fd0dM634,631 fd0eM633,631 fd0fM635,631 fd10M636,631 fd11M637,649 fd12M637,64a ",
    "fd13M639,649 fd14M639,64a fd15M63a,649 fd16M63a,64a fd17M633,649 fd18M633,64a fd19M634,649 ",
    "fd1aM634,64a fd1bM62d,649 fd1cM62d,64a fd1dM62c,649 fd1eM62c,64a fd1fM62e,649 fd20M62e,64a ",
    "fd21M635,649 fd22M635,64a fd23M636,649 fd24M636,64a fd25M634,62c fd26M634,62d fd27M634,62e ",
    "fd28M634,645 fd29M634,631 fd2aM633,631 fd2bM635,631 fd2cM636,631 fd2dM634,62c fd2eM634,62d ",
    "fd2fM634,62e fd30M634,645 fd31M633,647 fd32M634,647 fd33M637,645 fd34M633,62c fd35M633,62d ",
    "fd36M633,62e fd37M634,62c fd38M634,62d fd39M634,62e fd3aM637,645 fd3bM638,645 fd3cM627,64b fd3eV ",
    "fd50M62a,62c,645 fd51M62a,62d,62c fd53M62a,62d,645 fd54M62a,62e,645 fd55M62a,645,62c ",
    "fd56M62a,645,62d fd57M62a,645,62e fd58M62c,645,62d fd5aM62d,645,64a fd5bM62d,645,649 ",
    "fd5cM633,62d,62c fd5dM633,62c,62d fd5eM633,62c,649 fd5fM633,645,62d fd61M633,645,62c ",
    "fd62M633,645,645 fd64M635,62d,62d fd66M635,645,645 fd67M634,62d,645 fd69M634,62c,64a ",
    "fd6aM634,645,62e fd6cM634,645,645 fd6eM636,62d,649 fd6fM636,62e,645 fd71M637,645,62d ",
    "fd73M637,645,645 fd74M637,645,64a fd75M639,62c,645 fd76M639,645,645 fd78M639,645,649 ",
    "fd79M63a,645,645 fd7aM63a,645,64a fd7bM63a,645,649 fd7cM641,62e,645 fd7eM642,645,62d ",
    "fd7fM642,645,645 fd80M644,62d,645 fd81M644,62d,64a fd82M644,62d,649 fd83M644,62c,62c ",
    "fd85M644,62e,645 fd87M644,645,62d fd89M645,62d,62c fd8aM645,62d,645 fd8bM645,62d,64a ",
    "fd8cM645,62c,62d fd8dM645,62c,645 fd8eM645,62e,62c fd8fM645,62e,645 fd90V fd92M645,62c,62e ",
    "fd93M647,645,62c fd94M647,645,645 fd95M646,62d,645 fd96M646,62d,649 fd97M646,62c,645 ",
    "fd99M646,62c,649 fd9aM646,645,64a fd9bM646,645,649 fd9cM64a,645,645 fd9eM628,62e,64a ",
    "fd9fM62a,62c,64a fda0M62a,62c,649 fda1M62a,62e,64a fda2M62a,62e,649 fda3M62a,645,64a ",
    "fda4M62a,645,649 fda5M62c,645,64a fda6M62c,62d,649 fda7M62c,645,649 fda8M633,62e,649 ",
    "fda9M635,62d,64a fdaaM634,62d,64a fdabM636,62d,64a fdacM644,62c,64a fdadM644,645,64a ",
    "fdaeM64a,62d,64a fdafM64a,62c,64a fdb0M64a,645,64a fdb1M645,645,64a fdb2M642,645,64a ",
    "fdb3M646,62d,64a fdb4M642,645,62d fdb5M644,62d,645 fdb6M639,645,64a fdb7M643,645,64a ",
    "fdb8M646,62c,62d fdb9M645,62e,64a fdbaM644,62c,645 fdbbM643,645,645 fdbcM644,62c,645 ",
    "fdbdM646,62c,62d fdbeM62c,62d,64a fdbfM62d,62c,64a fdc0M645,62c,64a fdc1M641,645,64a ",
    "fdc2M628,62d,64a fdc3M643,645,645 fdc4M639,62c,645 fdc5M635,645,645 fdc6M633,62e,64a ",
    "fdc7M646,62c,64a fdc8V fdd0X fdf0M635,644,6d2 fdf1M642,644,6d2 fdf2M627,644,644,647 ",
    "fdf3M627,643,628,631 fdf4M645,62d,645,62f fdf5M635,644,639,645 fdf6M631,633,648,644 ",
    "fdf7M639,644,64a,647 fdf8M648,633,644,645 fdf9M635,644,649 ",
    "fdfaM635,644,649,20,627,644,644,647,20,639,644,64a,647,20,648,633,644,645 ",
    "fdfbM62c,644,20,62c,644,627,644,647 fdfcM631,6cc,627,644 fdfdV fe00I fe10M2c fe11M3001 fe12X ",
    "fe13M3a fe14M3b fe15M21 fe16M3f fe17M3016 fe18M3017 fe19X fe20V fe30X fe31M2014 fe32M2013 ",
    "fe33M5f fe35M28 fe36M29 fe37M7b fe38M7d fe39M3014 fe3aM3015 fe3bM3010 fe3cM3011 fe3dM300a ",
    "fe3eM300b fe3fM3008 fe40M3009 fe41M300c fe42M300d fe43M300e fe44M300f fe45V fe47M5b fe48M5d ",
    "fe49M20,305 fe4dM5f fe50M2c fe51M3001 fe52X fe54M3b fe55M3a fe56M3f fe57M21 fe58M2014 fe59M28 ",
    "fe5aM29 fe5bM7b fe5cM7d fe5dM3014 fe5eM3015 fe5fM23 fe60M26 fe61M2a fe62M2b fe63M2d fe64M3c ",
    "fe65M3e fe66M3d fe67X fe68M5c fe69M24 fe6aM25 fe6bM40 fe6cX fe70M20,64b fe71M640,64b fe72M20,64c ",
    "fe73V fe74M20,64d fe75X fe76M20,64e fe77M640,64e fe78M20,64f fe79M640,64f fe7aM20,650 ",
    "fe7bM640,650 fe7cM20,651 fe7dM640,651 fe7eM20,652 fe7fM640,652 fe80M621 fe81M622 fe83M623 ",
    "fe85M624 fe87M625 fe89M626 fe8dM627 fe8fM628 fe93M629 fe95M62a fe99M62b fe9dM62c fea1M62d ",
    "fea5M62e fea9M62f feabM630 feadM631 feafM632 feb1M633 feb5M634 feb9M635 febdM636 fec1M637 ",
    "fec5M638 fec9M639 fecdM63a fed1M641 fed5M642 fed9M643 feddM644 fee1M645 fee5M646 fee9M647 ",
    "feedM648 feefM649 fef1M64a fef5M644,622 fef7M644,623 fef9M644,625 fefbM644,627 fefdX feffI ff00X ",
    "ff01M21 ff02M22 ff03M23 ff04M24 ff05M25 ff06M26 ff07M27 ff08M28 ff09M29 ff0aM2a ff0bM2b ff0cM2c ",
    "ff0dM2d ff0eM2e ff0fM2f ff10M30 ff11M31 ff12M32 ff13M33 ff14M34 ff15M35 ff16M36 ff17M37 ff18M38 ",
    "ff19M39 ff1aM3a ff1bM3b ff1cM3c ff1dM3d ff1eM3e ff1fM3f ff20M40 ff21M61 ff22M62 ff23M63 ff24M64 ",
    "ff25M65 ff26M66 ff27M67 ff28M68 ff29M69 ff2aM6a ff2bM6b ff2cM6c ff2dM6d ff2eM6e ff2fM6f ff30M70 ",
    "ff31M71 ff32M72 ff33M73 ff34M74 ff35M75 ff36M76 ff37M77 ff38M78 ff39M79 ff3aM7a ff3bM5b ff3cM5c ",
    "ff3dM5d ff3eM5e ff3fM5f ff40M60 ff41M61 ff42M62 ff43M63 ff44M64 ff45M65 ff46M66 ff47M67 ff48M68 ",
    "ff49M69 ff4aM6a ff4bM6b ff4cM6c ff4dM6d ff4eM6e ff4fM6f ff50M70 ff51M71 ff52M72 ff53M73 ff54M74 ",
    "ff55M75 ff56M76 ff57M77 ff58M78 ff59M79 ff5aM7a ff5bM7b ff5cM7c ff5dM7d ff5eM7e ff5fM2985 ",
    "ff60M2986 ff61M2e ff62M300c ff63M300d ff64M3001 ff65M30fb ff66M30f2 ff67M30a1 ff68M30a3 ",
    "ff69M30a5 ff6aM30a7 ff6bM30a9 ff6cM30e3 ff6dM30e5 ff6eM30e7 ff6fM30c3 ff70M30fc ff71M30a2 ",
    "ff72M30a4 ff73M30a6 ff74M30a8 ff75M30aa ff76M30ab ff77M30ad ff78M30af ff79M30b1 ff7aM30b3 ",
    "ff7bM30b5 ff7cM30b7 ff7dM30b9 ff7eM30bb ff7fM30bd ff80M30bf ff81M30c1 ff82M30c4 ff83M30c6 ",
    "ff84M30c8 ff85M30ca ff86M30cb ff87M30cc ff88M30cd ff89M30ce ff8aM30cf ff8bM30d2 ff8cM30d5 ",
    "ff8dM30d8 ff8eM30db ff8fM30de ff90M30df ff91M30e0 ff92M30e1 ff93M30e2 ff94M30e4 ff95M30e6 ",
    "ff96M30e8 ff97M30e9 ff98M30ea ff99M30eb ff9aM30ec ff9bM30ed ff9cM30ef ff9dM30f3 ff9eM3099 ",
    "ff9fM309a ffa0I ffa1M1100 ffa2M1101 ffa3M11aa ffa4M1102 ffa5M11ac ffa6M11ad ffa7M1103 ffa8M1104 ",
    "ffa9M1105 ffaaM11b0 ffabM11b1 ffacM11b2 ffadM11b3 ffaeM11b4 ffafM11b5 ffb0M111a ffb1M1106 ",
    "ffb2M1107 ffb3M1108 ffb4M1121 ffb5M1109 ffb6M110a ffb7M110b ffb8M110c ffb9M110d ffbaM110e ",
    "ffbbM110f ffbcM1110 ffbdM1111 ffbeM1112 ffbfX ffc2M1161 ffc3M1162 ffc4M1163 ffc5M1164 ffc6M1165 ",
    "ffc7M1166 ffc8X ffcaM1167 ffcbM1168 ffccM1169 ffcdM116a ffceM116b ffcfM116c ffd0X ffd2M116d ",
    "ffd3M116e ffd4M116f ffd5M1170 ffd6M1171 ffd7M1172 ffd8X ffdaM1173 ffdbM1174 ffdcM1175 ffddX ",
    "ffe0Ma2 ffe1Ma3 ffe2Mac ffe3M20,304 ffe4Ma6 ffe5Ma5 ffe6M20a9 ffe7X ffe8M2502 ffe9M2190 ",
    "ffeaM2191 ffebM2192 ffecM2193 ffedM25a0 ffeeM25cb ffefX 10000V 1000cX 1000dV 10027X 10028V ",
    "1003bX 1003cV 1003eX 1003fV 1004eX 10050V 1005eX 10080V 100fbX 10100V 10103X 10107V 10134X ",
    "10137V 1018fX 10190V 1019dX 101a0V 101a1X 101d0V 101feX 10280V 1029dX 102a0V 102d1X 102e0V ",
    "102fcX 10300V 10324X 1032dV 1034bX 10350V 1037bX 10380V 1039eX 1039fV 103c4X 103c8V 103d6X ",
    "10400M10428 10401M10429 10402M1042a 10403M1042b 10404M1042c 10405M1042d 10406M1042e 10407M1042f ",
    "10408M10430 10409M10431 1040aM10432 1040bM10433 1040cM10434 1040dM10435 1040eM10436 1040fM10437 ",
    "10410M10438 10411M10439 10412M1043a 10413M1043b 10414M1043c 10415M1043d 10416M1043e 10417M1043f ",
    "10418M10440 10419M10441 1041aM10442 1041bM10443 1041cM10444 1041dM10445 1041eM10446 1041fM10447 ",
    "10420M10448 10421M10449 10422M1044a 10423M1044b 10424M1044c 10425M1044d 10426M1044e 10427M1044f ",
    "10428V 1049eX 104a0V 104aaX 104b0M104d8 104b1M104d9 104b2M104da 104b3M104db 104b4M104dc ",
    "104b5M104dd 104b6M104de 104b7M104df 104b8M104e0 104b9M104e1 104baM104e2 104bbM104e3 104bcM104e4 ",
    "104bdM104e5 104beM104e6 104bfM104e7 104c0M104e8 104c1M104e9 104c2M104ea 104c3M104eb 104c4M104ec ",
    "104c5M104ed 104c6M104ee 104c7M104ef 104c8M104f0 104c9M104f1 104caM104f2 104cbM104f3 104ccM104f4 ",
    "104cdM104f5 104ceM104f6 104cfM104f7 104d0M104f8 104d1M104f9 104d2M104fa 104d3M104fb 104d4X ",
    "104d8V 104fcX 10500V 10528X 10530V 10564X 1056fV 10570M10597 10571M10598 10572M10599 10573M1059a ",
    "10574M1059b 10575M1059c 10576M1059d 10577M1059e 10578M1059f 10579M105a0 1057aM105a1 1057bX ",
    "1057cM105a3 1057dM105a4 1057eM105a5 1057fM105a6 10580M105a7 10581M105a8 10582M105a9 10583M105aa ",
    "10584M105ab 10585M105ac 10586M105ad 10587M105ae 10588M105af 10589M105b0 1058aM105b1 1058bX ",
    "1058cM105b3 1058dM105b4 1058eM105b5 1058fM105b6 10590M105b7 10591M105b8 10592M105b9 10593X ",
    "10594M105bb 10595M105bc 10596X 10597V 105a2X 105a3V 105b2X 105b3V 105baX 105bbV 105bdX 105c0V ",
    "105f4X 10600V 10737X 10740V 10756X 10760V 10768X 10780V 10781M2d0 10782M2d1 10783Me6 10784M299 ",
    "10785M253 10786X 10787M2a3 10788Mab66 10789M2a5 1078aM2a4 1078bM256 1078cM257 1078dM1d91 ",
    "1078eM258 1078fM25e 10790M2a9 10791M264 10792M262 10793M260 10794M29b 10795M127 10796M29c ",
    "10797M267 10798M284 10799M2aa 1079aM2ab 1079bM26c 1079cM1df04 1079dMa78e 1079eM26e 1079fM1df05 ",
    "107a0M28e 107a1M1df06 107a2Mf8 107a3M276 107a4M277 107a5M71 107a6M27a 107a7M1df08 107a8M27d ",
    "107a9M27e 107aaM280 107abM2a8 107acM2a6 107adMab67 107aeM2a7 107afM288 107b0M2c71 107b1X ",
    "107b2M28f 107b3M2a1 107b4M2a2 107b5M298 107b6M1c0 107b7M1c1 107b8M1c2 107b9M1df0a 107baM1df1e ",
    "107bbX 10800V 10806X 10808V 10809X 1080aV 10836X 10837V 10839X 1083cV 1083dX 1083fV 10856X ",
    "10857V 1089fX 108a7V 108b0X 108e0V 108f3X 108f4V 108f6X 108fbV 1091cX 1091fV 1093aX 1093fV ",
    "1095aX 10980V 109b8X 109bcV 109d0X 109d2V 10a04X 10a05V 10a07X 10a0cV 10a14X 10a15V 10a18X ",
    "10a19V 10a36X 10a38V 10a3bX 10a3fV 10a49X 10a50V 10a59X 10a60V 10aa0X 10ac0V 10ae7X 10aebV ",
    "10af7X 10b00V 10b36X 10b39V 10b56X 10b58V 10b73X 10b78V 10b92X 10b99V 10b9dX 10ba9V 10bb0X ",
    "10c00V 10c49X 10c80M10cc0 10c81M10cc1 10c82M10cc2 10c83M10cc3 10c84M10cc4 10c85M10cc5 ",
    "10c86M10cc6 10c87M10cc7 10c88M10cc8 10c89M10cc9 10c8aM10cca 10c8bM10ccb 10c8cM10ccc 10c8dM10ccd ",
    "10c8eM10cce 10c8fM10ccf 10c90M10cd0 10c91M10cd1 10c92M10cd2 10c93M10cd3 10c94M10cd4 10c95M10cd5 ",
    "10c96M10cd6 10c97M10cd7 10c98M10cd8 10c99M10cd9 10c9aM10cda 10c9bM10cdb 10c9cM10cdc 10c9dM10cdd ",
    "10c9eM10cde 10c9fM10cdf 10ca0M10ce0 10ca1M10ce1 10ca2M10ce2 10ca3M10ce3 10ca4M10ce4 10ca5M10ce5 ",
    "10ca6M10ce6 10ca7M10ce7 10ca8M10ce8 10ca9M10ce9 10caaM10cea 10cabM10ceb 10cacM10cec 10cadM10ced ",
    "10caeM10cee 10cafM10cef 10cb0M10cf0 10cb1M10cf1 10cb2M10cf2 10cb3X 10cc0V 10cf3X 10cfaV 10d28X ",
    "10d30V 10d3aX 10d40V 10d50M10d70 10d51M10d71 10d52M10d72 10d53M10d73 10d54M10d74 10d55M10d75 ",
    "10d56M10d76 10d57M10d77 10d58M10d78 10d59M10d79 10d5aM10d7a 10d5bM10d7b 10d5cM10d7c 10d5dM10d7d ",
    "10d5eM10d7e 10d5fM10d7f 10d60M10d80 10d61M10d81 10d62M10d82 10d63M10d83 10d64M10d84 10d65M10d85 ",
    "10d66X 10d69V 10d86X 10d8eV 10d90X 10e60V 10e7fX 10e80V 10eaaX 10eabV 10eaeX 10eb0V 10eb2X ",
    "10ec2V 10ec8X 10ed0V 10ed9X 10efaV 10f28X 10f30V 10f5aX 10f70V 10f8aX 10fb0V 10fccX 10fe0V ",
    "10ff7X 11000V 1104eX 11052V 11076X 1107fV 110bdX 110beV 110c3X 110d0V 110e9X 110f0V 110faX ",
    "11100V 11135X 11136V 11148X 11150V 11177X 11180V 111e0X 111e1V 111f5X 11200V 11212X 11213V ",
    "11242X 11280V 11287X 11288V 11289X 1128aV 1128eX 1128fV 1129eX 1129fV 112aaX 112b0V 112ebX ",
    "112f0V 112faX 11300V 11304X 11305V 1130dX 1130fV 11311X 11313V 11329X 1132aV 11331X 11332V ",
    "11334X 11335V 1133aX 1133bV 11345X 11347V 11349X 1134bV 1134eX 11350V 11351X 11357V 11358X ",
    "1135dV 11364X 11366V 1136dX 11370V 11375X 11380V 1138aX 1138bV 1138cX 1138eV 1138fX 11390V ",
    "113b6X 113b7V 113c1X 113c2V 113c3X 113c5V 113c6X 113c7V 113cbX 113ccV 113d6X 113d7V 113d9X ",
    "113e1V 113e3X 11400V 1145cX 1145dV 11462X 11480V 114c8X 114d0V 114daX 11580V 115b6X 115b8V ",
    "115deX 11600V 11645X 11650V 1165aX 11660V 1166dX 11680V 116baX 116c0V 116caX 116d0V 116e4X ",
    "11700V 1171bX 1171dV 1172cX 11730V 11747X 11800V 1183cX 118a0M118c0 118a1M118c1 118a2M118c2 ",
    "118a3M118c3 118a4M118c4 118a5M118c5 118a6M118c6 118a7M118c7 118a8M118c8 118a9M118c9 118aaM118ca ",
    "118abM118cb 118acM118cc 118adM118cd 118aeM118ce 118afM118cf 118b0M118d0 118b1M118d1 118b2M118d2 ",
    "118b3M118d3 118b4M118d4 118b5M118d5 118b6M118d6 118b7M118d7 118b8M118d8 118b9M118d9 118baM118da ",
    "118bbM118db 118bcM118dc 118bdM118dd 118beM118de 118bfM118df 118c0V 118f3X 118ffV 11907X 11909V ",
    "1190aX 1190cV 11914X 11915V 11917X 11918V 11936X 11937V 11939X 1193bV 11947X 11950V 1195aX ",
    "119a0V 119a8X 119aaV 119d8X 119daV 119e5X 11a00V 11a48X 11a50V 11aa3X 11ab0V 11af9X 11b00V ",
    "11b0aX 11b60V 11b68X 11bc0V 11be2X 11bf0V 11bfaX 11c00V 11c09X 11c0aV 11c37X 11c38V 11c46X ",
    "11c50V 11c6dX 11c70V 11c90X 11c92V 11ca8X 11ca9V 11cb7X 11d00V 11d07X 11d08V 11d0aX 11d0bV ",
    "11d37X 11d3aV 11d3bX 11d3cV 11d3eX 11d3fV 11d48X 11d50V 11d5aX 11d60V 11d66X 11d67V 11d69X ",
    "11d6aV 11d8fX 11d90V 11d92X 11d93V 11d99X 11da0V 11daaX 11db0V 11ddcX 11de0V 11deaX 11ee0V ",
    "11ef9X 11f00V 11f11X 11f12V 11f3bX 11f3eV 11f5bX 11fb0V 11fb1X 11fc0V 11ff2X 11fffV 1239aX ",
    "12400V 1246fX 12470V 12475X 12480V 12544X 12f90V 12ff3X 13000V 13430X 13440V 13456X 13460V ",
    "143fbX 14400V 14647X 16100V 1613aX 16800V 16a39X 16a40V 16a5fX 16a60V 16a6aX 16a6eV 16abfX ",
    "16ac0V 16acaX 16ad0V 16aeeX 16af0V 16af6X 16b00V 16b46X 16b50V 16b5aX 16b5bV 16b62X 16b63V ",
    "16b78X 16b7dV 16b90X 16d40V 16d7aX 16e40M16e60 16e41M16e61 16e42M16e62 16e43M16e63 16e44M16e64 ",
    "16e45M16e65 16e46M16e66 16e47M16e67 16e48M16e68 16e49M16e69 16e4aM16e6a 16e4bM16e6b 16e4cM16e6c ",
    "16e4dM16e6d 16e4eM16e6e 16e4fM16e6f 16e50M16e70 16e51M16e71 16e52M16e72 16e53M16e73 16e54M16e74 ",
    "16e55M16e75 16e56M16e76 16e57M16e77 16e58M16e78 16e59M16e79 16e5aM16e7a 16e5bM16e7b 16e5cM16e7c ",
    "16e5dM16e7d 16e5eM16e7e 16e5fM16e7f 16e60V 16e9bX 16ea0M16ebb 16ea1M16ebc 16ea2M16ebd ",
    "16ea3M16ebe 16ea4M16ebf 16ea5M16ec0 16ea6M16ec1 16ea7M16ec2 16ea8M16ec3 16ea9M16ec4 16eaaM16ec5 ",
    "16eabM16ec6 16eacM16ec7 16eadM16ec8 16eaeM16ec9 16eafM16eca 16eb0M16ecb 16eb1M16ecc 16eb2M16ecd ",
    "16eb3M16ece 16eb4M16ecf 16eb5M16ed0 16eb6M16ed1 16eb7M16ed2 16eb8M16ed3 16eb9X 16ebbV 16ed4X ",
    "16f00V 16f4bX 16f4fV 16f88X 16f8fV 16fa0X 16fe0V 16fe5X 16ff0V 16ff7X 17000V 18cd6X 18cffV ",
    "18d1fX 18d80V 18df3X 1aff0V 1aff4X 1aff5V 1affcX 1affdV 1afffX 1b000V 1b123X 1b132V 1b133X ",
    "1b150V 1b153X 1b155V 1b156X 1b164V 1b168X 1b170V 1b2fcX 1bc00V 1bc6bX 1bc70V 1bc7dX 1bc80V ",
    "1bc89X 1bc90V 1bc9aX 1bc9cV 1bca0I 1bca4X 1cc00V 1ccd6M61 1ccd7M62 1ccd8M63 1ccd9M64 1ccdaM65 ",
    "1ccdbM66 1ccdcM67 1ccddM68 1ccdeM69 1ccdfM6a 1cce0M6b 1cce1M6c 1cce2M6d 1cce3M6e 1cce4M6f ",
    "1cce5M70 1cce6M71 1cce7M72 1cce8M73 1cce9M74 1cceaM75 1ccebM76 1ccecM77 1ccedM78 1cceeM79 ",
    "1ccefM7a 1ccf0M30 1ccf1M31 1ccf2M32 1ccf3M33 1ccf4M34 1ccf5M35 1ccf6M36 1ccf7M37 1ccf8M38 ",
    "1ccf9M39 1ccfaV 1ccfdX 1cd00V 1ceb4X 1cebaV 1ced1X 1cee0V 1cef1X 1cf00V 1cf2eX 1cf30V 1cf47X ",
    "1cf50V 1cfc4X 1d000V 1d0f6X 1d100V 1d127X 1d129V 1d15eM1d157,1d165 1d15fM1d158,1d165 ",
    "1d160M1d158,1d165,1d16e 1d161M1d158,1d165,1d16f 1d162M1d158,1d165,1d170 1d163M1d158,1d165,1d171 ",
    "1d164M1d158,1d165,1d172 1d165V 1d173I 1d17bV 1d1bbM1d1b9,1d165 1d1bcM1d1ba,1d165 ",
    "1d1bdM1d1b9,1d165,1d16e 1d1beM1d1ba,1d165,1d16e 1d1bfM1d1b9,1d165,1d16f 1d1c0M1d1ba,1d165,1d16f ",
    "1d1c1V 1d1ebX 1d200V 1d246X 1d2c0V 1d2d4X 1d2e0V 1d2f4X 1d300V 1d357X 1d360V 1d379X 1d400M61 ",
    "1d401M62 1d402M63 1d403M64 1d404M65 1d405M66 1d406M67 1d407M68 1d408M69 1d409M6a 1d40aM6b ",
    "1d40bM6c 1d40cM6d 1d40dM6e 1d40eM6f 1d40fM70 1d410M71 1d411M72 1d412M73 1d413M74 1d414M75 ",
    "1d415M76 1d416M77 1d417M78 1d418M79 1d419M7a 1d41aM61 1d41bM62 1d41cM63 1d41dM64 1d41eM65 ",
    "1d41fM66 1d420M67 1d421M68 1d422M69 1d423M6a 1d424M6b 1d425M6c 1d426M6d 1d427M6e 1d428M6f ",
    "1d429M70 1d42aM71 1d42bM72 1d42cM73 1d42dM74 1d42eM75 1d42fM76 1d430M77 1d431M78 1d432M79 ",
    "1d433M7a 1d434M61 1d435M62 1d436M63 1d437M64 1d438M65 1d439M66 1d43aM67 1d43bM68 1d43cM69 ",
    "1d43dM6a 1d43eM6b 1d43fM6c 1d440M6d 1d441M6e 1d442M6f 1d443M70 1d444M71 1d445M72 1d446M73 ",
    "1d447M74 1d448M75 1d449M76 1d44aM77 1d44bM78 1d44cM79 1d44dM7a 1d44eM61 1d44fM62 1d450M63 ",
    "1d451M64 1d452M65 1d453M66 1d454M67 1d455X 1d456M69 1d457M6a 1d458M6b 1d459M6c 1d45aM6d 1d45bM6e ",
    "1d45cM6f 1d45dM70 1d45eM71 1d45fM72 1d460M73 1d461M74 1d462M75 1d463M76 1d464M77 1d465M78 ",
    "1d466M79 1d467M7a 1d468M61 1d469M62 1d46aM63 1d46bM64 1d46cM65 1d46dM66 1d46eM67 1d46fM68 ",
    "1d470M69 1d471M6a 1d472M6b 1d473M6c 1d474M6d 1d475M6e 1d476M6f 1d477M70 1d478M71 1d479M72 ",
    "1d47aM73 1d47bM74 1d47cM75 1d47dM76 1d47eM77 1d47fM78 1d480M79 1d481M7a 1d482M61 1d483M62 ",
    "1d484M63 1d485M64 1d486M65 1d487M66 1d488M67 1d489M68 1d48aM69 1d48bM6a 1d48cM6b 1d48dM6c ",
    "1d48eM6d 1d48fM6e 1d490M6f 1d491M70 1d492M71 1d493M72 1d494M73 1d495M74 1d496M75 1d497M76 ",
    "1d498M77 1d499M78 1d49aM79 1d49bM7a 1d49cM61 1d49dX 1d49eM63 1d49fM64 1d4a0X 1d4a2M67 1d4a3X ",
    "1d4a5M6a 1d4a6M6b 1d4a7X 1d4a9M6e 1d4aaM6f 1d4abM70 1d4acM71 1d4adX 1d4aeM73 1d4afM74 1d4b0M75 ",
    "1d4b1M76 1d4b2M77 1d4b3M78 1d4b4M79 1d4b5M7a 1d4b6M61 1d4b7M62 1d4b8M63 1d4b9M64 1d4baX 1d4bbM66 ",
    "1d4bcX 1d4bdM68 1d4beM69 1d4bfM6a 1d4c0M6b 1d4c1M6c 1d4c2M6d 1d4c3M6e 1d4c4X 1d4c5M70 1d4c6M71 ",
    "1d4c7M72 1d4c8M73 1d4c9M74 1d4caM75 1d4cbM76 1d4ccM77 1d4cdM78 1d4ceM79 1d4cfM7a 1d4d0M61 ",
    "1d4d1M62 1d4d2M63 1d4d3M64 1d4d4M65 1d4d5M66 1d4d6M67 1d4d7M68 1d4d8M69 1d4d9M6a 1d4daM6b ",
    "1d4dbM6c 1d4dcM6d 1d4ddM6e 1d4deM6f 1d4dfM70 1d4e0M71 1d4e1M72 1d4e2M73 1d4e3M74 1d4e4M75 ",
    "1d4e5M76 1d4e6M77 1d4e7M78 1d4e8M79 1d4e9M7a 1d4eaM61 1d4ebM62 1d4ecM63 1d4edM64 1d4eeM65 ",
    "1d4efM66 1d4f0M67 1d4f1M68 1d4f2M69 1d4f3M6a 1d4f4M6b 1d4f5M6c 1d4f6M6d 1d4f7M6e 1d4f8M6f ",
    "1d4f9M70 1d4faM71 1d4fbM72 1d4fcM73 1d4fdM74 1d4feM75 1d4ffM76 1d500M77 1d501M78 1d502M79 ",
    "1d503M7a 1d504M61 1d505M62 1d506X 1d507M64 1d508M65 1d509M66 1d50aM67 1d50bX 1d50dM6a 1d50eM6b ",
    "1d50fM6c 1d510M6d 1d511M6e 1d512M6f 1d513M70 1d514M71 1d515X 1d516M73 1d517M74 1d518M75 1d519M76 ",
    "1d51aM77 1d51bM78 1d51cM79 1d51dX 1d51eM61 1d51fM62 1d520M63 1d521M64 1d522M65 1d523M66 1d524M67 ",
    "1d525M68 1d526M69 1d527M6a 1d528M6b 1d529M6c 1d52aM6d 1d52bM6e 1d52cM6f 1d52dM70 1d52eM71 ",
    "1d52fM72 1d530M73 1d531M74 1d532M75 1d533M76 1d534M77 1d535M78 1d536M79 1d537M7a 1d538M61 ",
    "1d539M62 1d53aX 1d53bM64 1d53cM65 1d53dM66 1d53eM67 1d53fX 1d540M69 1d541M6a 1d542M6b 1d543M6c ",
    "1d544M6d 1d545X 1d546M6f 1d547X 1d54aM73 1d54bM74 1d54cM75 1d54dM76 1d54eM77 1d54fM78 1d550M79 ",
    "1d551X 1d552M61 1d553M62 1d554M63 1d555M64 1d556M65 1d557M66 1d558M67 1d559M68 1d55aM69 1d55bM6a ",
    "1d55cM6b 1d55dM6c 1d55eM6d 1d55fM6e 1d560M6f 1d561M70 1d562M71 1d563M72 1d564M73 1d565M74 ",
    "1d566M75 1d567M76 1d568M77 1d569M78 1d56aM79 1d56bM7a 1d56cM61 1d56dM62 1d56eM63 1d56fM64 ",
    "1d570M65 1d571M66 1d572M67 1d573M68 1d574M69 1d575M6a 1d576M6b 1d577M6c 1d578M6d 1d579M6e ",
    "1d57aM6f 1d57bM70 1d57cM71 1d57dM72 1d57eM73 1d57fM74 1d580M75 1d581M76 1d582M77 1d583M78 ",
    "1d584M79 1d585M7a 1d586M61 1d587M62 1d588M63 1d589M64 1d58aM65 1d58bM66 1d58cM67 1d58dM68 ",
    "1d58eM69 1d58fM6a 1d590M6b 1d591M6c 1d592M6d 1d593M6e 1d594M6f 1d595M70 1d596M71 1d597M72 ",
    "1d598M73 1d599M74 1d59aM75 1d59bM76 1d59cM77 1d59dM78 1d59eM79 1d59fM7a 1d5a0M61 1d5a1M62 ",
    "1d5a2M63 1d5a3M64 1d5a4M65 1d5a5M66 1d5a6M67 1d5a7M68 1d5a8M69 1d5a9M6a 1d5aaM6b 1d5abM6c ",
    "1d5acM6d 1d5adM6e 1d5aeM6f 1d5afM70 1d5b0M71 1d5b1M72 1d5b2M73 1d5b3M74 1d5b4M75 1d5b5M76 ",
    "1d5b6M77 1d5b7M78 1d5b8M79 1d5b9M7a 1d5baM61 1d5bbM62 1d5bcM63 1d5bdM64 1d5beM65 1d5bfM66 ",
    "1d5c0M67 1d5c1M68 1d5c2M69 1d5c3M6a 1d5c4M6b 1d5c5M6c 1d5c6M6d 1d5c7M6e 1d5c8M6f 1d5c9M70 ",
    "1d5caM71 1d5cbM72 1d5ccM73 1d5cdM74 1d5ceM75 1d5cfM76 1d5d0M77 1d5d1M78 1d5d2M79 1d5d3M7a ",
    "1d5d4M61 1d5d5M62 1d5d6M63 1d5d7M64 1d5d8M65 1d5d9M66 1d5daM67 1d5dbM68 1d5dcM69 1d5ddM6a ",
    "1d5deM6b 1d5dfM6c 1d5e0M6d 1d5e1M6e 1d5e2M6f 1d5e3M70 1d5e4M71 1d5e5M72 1d5e6M73 1d5e7M74 ",
    "1d5e8M75 1d5e9M76 1d5eaM77 1d5ebM78 1d5ecM79 1d5edM7a 1d5eeM61 1d5efM62 1d5f0M63 1d5f1M64 ",
    "1d5f2M65 1d5f3M66 1d5f4M67 1d5f5M68 1d5f6M69 1d5f7M6a 1d5f8M6b 1d5f9M6c 1d5faM6d 1d5fbM6e ",
    "1d5fcM6f 1d5fdM70 1d5feM71 1d5ffM72 1d600M73 1d601M74 1d602M75 1d603M76 1d604M77 1d605M78 ",
    "1d606M79 1d607M7a 1d608M61 1d609M62 1d60aM63 1d60bM64 1d60cM65 1d60dM66 1d60eM67 1d60fM68 ",
    "1d610M69 1d611M6a 1d612M6b 1d613M6c 1d614M6d 1d615M6e 1d616M6f 1d617M70 1d618M71 1d619M72 ",
    "1d61aM73 1d61bM74 1d61cM75 1d61dM76 1d61eM77 1d61fM78 1d620M79 1d621M7a 1d622M61 1d623M62 ",
    "1d624M63 1d625M64 1d626M65 1d627M66 1d628M67 1d629M68 1d62aM69 1d62bM6a 1d62cM6b 1d62dM6c ",
    "1d62eM6d 1d62fM6e 1d630M6f 1d631M70 1d632M71 1d633M72 1d634M73 1d635M74 1d636M75 1d637M76 ",
    "1d638M77 1d639M78 1d63aM79 1d63bM7a 1d63cM61 1d63dM62 1d63eM63 1d63fM64 1d640M65 1d641M66 ",
    "1d642M67 1d643M68 1d644M69 1d645M6a 1d646M6b 1d647M6c 1d648M6d 1d649M6e 1d64aM6f 1d64bM70 ",
    "1d64cM71 1d64dM72 1d64eM73 1d64fM74 1d650M75 1d651M76 1d652M77 1d653M78 1d654M79 1d655M7a ",
    "1d656M61 1d657M62 1d658M63 1d659M64 1d65aM65 1d65bM66 1d65cM67 1d65dM68 1d65eM69 1d65fM6a ",
    "1d660M6b 1d661M6c 1d662M6d 1d663M6e 1d664M6f 1d665M70 1d666M71 1d667M72 1d668M73 1d669M74 ",
    "1d66aM75 1d66bM76 1d66cM77 1d66dM78 1d66eM79 1d66fM7a 1d670M61 1d671M62 1d672M63 1d673M64 ",
    "1d674M65 1d675M66 1d676M67 1d677M68 1d678M69 1d679M6a 1d67aM6b 1d67bM6c 1d67cM6d 1d67dM6e ",
    "1d67eM6f 1d67fM70 1d680M71 1d681M72 1d682M73 1d683M74 1d684M75 1d685M76 1d686M77 1d687M78 ",
    "1d688M79 1d689M7a 1d68aM61 1d68bM62 1d68cM63 1d68dM64 1d68eM65 1d68fM66 1d690M67 1d691M68 ",
    "1d692M69 1d693M6a 1d694M6b 1d695M6c 1d696M6d 1d697M6e 1d698M6f 1d699M70 1d69aM71 1d69bM72 ",
    "1d69cM73 1d69dM74 1d69eM75 1d69fM76 1d6a0M77 1d6a1M78 1d6a2M79 1d6a3M7a 1d6a4M131 1d6a5M237 ",
    "1d6a6X 1d6a8M3b1 1d6a9M3b2 1d6aaM3b3 1d6abM3b4 1d6acM3b5 1d6adM3b6 1d6aeM3b7 1d6afM3b8 1d6b0M3b9 ",
    "1d6b1M3ba 1d6b2M3bb 1d6b3M3bc 1d6b4M3bd 1d6b5M3be 1d6b6M3bf 1d6b7M3c0 1d6b8M3c1 1d6b9M3b8 ",
    "1d6baM3c3 1d6bbM3c4 1d6bcM3c5 1d6bdM3c6 1d6beM3c7 1d6bfM3c8 1d6c0M3c9 1d6c1M2207 1d6c2M3b1 ",
    "1d6c3M3b2 1d6c4M3b3 1d6c5M3b4 1d6c6M3b5 1d6c7M3b6 1d6c8M3b7 1d6c9M3b8 1d6caM3b9 1d6cbM3ba ",
    "1d6ccM3bb 1d6cdM3bc 1d6ceM3bd 1d6cfM3be 1d6d0M3bf 1d6d1M3c0 1d6d2M3c1 1d6d3M3c3 1d6d5M3c4 ",
    "1d6d6M3c5 1d6d7M3c6 1d6d8M3c7 1d6d9M3c8 1d6daM3c9 1d6dbM2202 1d6dcM3b5 1d6ddM3b8 1d6deM3ba ",
    "1d6dfM3c6 1d6e0M3c1 1d6e1M3c0 1d6e2M3b1 1d6e3M3b2 1d6e4M3b3 1d6e5M3b4 1d6e6M3b5 1d6e7M3b6 ",
    "1d6e8M3b7 1d6e9M3b8 1d6eaM3b9 1d6ebM3ba 1d6ecM3bb 1d6edM3bc 1d6eeM3bd 1d6efM3be 1d6f0M3bf ",
    "1d6f1M3c0 1d6f2M3c1 1d6f3M3b8 1d6f4M3c3 1d6f5M3c4 1d6f6M3c5 1d6f7M3c6 1d6f8M3c7 1d6f9M3c8 ",
    "1d6faM3c9 1d6fbM2207 1d6fcM3b1 1d6fdM3b2 1d6feM3b3 1d6ffM3b4 1d700M3b5 1d701M3b6 1d702M3b7 ",
    "1d703M3b8 1d704M3b9 1d705M3ba 1d706M3bb 1d707M3bc 1d708M3bd 1d709M3be 1d70aM3bf 1d70bM3c0 ",
    "1d70cM3c1 1d70dM3c3 1d70fM3c4 1d710M3c5 1d711M3c6 1d712M3c7 1d713M3c8 1d714M3c9 1d715M2202 ",
    "1d716M3b5 1d717M3b8 1d718M3ba 1d719M3c6 1d71aM3c1 1d71bM3c0 1d71cM3b1 1d71dM3b2 1d71eM3b3 ",
    "1d71fM3b4 1d720M3b5 1d721M3b6 1d722M3b7 1d723M3b8 1d724M3b9 1d725M3ba 1d726M3bb 1d727M3bc ",
    "1d728M3bd 1d729M3be 1d72aM3bf 1d72bM3c0 1d72cM3c1 1d72dM3b8 1d72eM3c3 1d72fM3c4 1d730M3c5 ",
    "1d731M3c6 1d732M3c7 1d733M3c8 1d734M3c9 1d735M2207 1d736M3b1 1d737M3b2 1d738M3b3 1d739M3b4 ",
    "1d73aM3b5 1d73bM3b6 1d73cM3b7 1d73dM3b8 1d73eM3b9 1d73fM3ba 1d740M3bb 1d741M3bc 1d742M3bd ",
    "1d743M3be 1d744M3bf 1d745M3c0 1d746M3c1 1d747M3c3 1d749M3c4 1d74aM3c5 1d74bM3c6 1d74cM3c7 ",
    "1d74dM3c8 1d74eM3c9 1d74fM2202 1d750M3b5 1d751M3b8 1d752M3ba 1d753M3c6 1d754M3c1 1d755M3c0 ",
    "1d756M3b1 1d757M3b2 1d758M3b3 1d759M3b4 1d75aM3b5 1d75bM3b6 1d75cM3b7 1d75dM3b8 1d75eM3b9 ",
    "1d75fM3ba 1d760M3bb 1d761M3bc 1d762M3bd 1d763M3be 1d764M3bf 1d765M3c0 1d766M3c1 1d767M3b8 ",
    "1d768M3c3 1d769M3c4 1d76aM3c5 1d76bM3c6 1d76cM3c7 1d76dM3c8 1d76eM3c9 1d76fM2207 1d770M3b1 ",
    "1d771M3b2 1d772M3b3 1d773M3b4 1d774M3b5 1d775M3b6 1d776M3b7 1d777M3b8 1d778M3b9 1d779M3ba ",
    "1d77aM3bb 1d77bM3bc 1d77cM3bd 1d77dM3be 1d77eM3bf 1d77fM3c0 1d780M3c1 1d781M3c3 1d783M3c4 ",
    "1d784M3c5 1d785M3c6 1d786M3c7 1d787M3c8 1d788M3c9 1d789M2202 1d78aM3b5 1d78bM3b8 1d78cM3ba ",
    "1d78dM3c6 1d78eM3c1 1d78fM3c0 1d790M3b1 1d791M3b2 1d792M3b3 1d793M3b4 1d794M3b5 1d795M3b6 ",
    "1d796M3b7 1d797M3b8 1d798M3b9 1d799M3ba 1d79aM3bb 1d79bM3bc 1d79cM3bd 1d79dM3be 1d79eM3bf ",
    "1d79fM3c0 1d7a0M3c1 1d7a1M3b8 1d7a2M3c3 1d7a3M3c4 1d7a4M3c5 1d7a5M3c6 1d7a6M3c7 1d7a7M3c8 ",
    "1d7a8M3c9 1d7a9M2207 1d7aaM3b1 1d7abM3b2 1d7acM3b3 1d7adM3b4 1d7aeM3b5 1d7afM3b6 1d7b0M3b7 ",
    "1d7b1M3b8 1d7b2M3b9 1d7b3M3ba 1d7b4M3bb 1d7b5M3bc 1d7b6M3bd 1d7b7M3be 1d7b8M3bf 1d7b9M3c0 ",
    "1d7baM3c1 1d7bbM3c3 1d7bdM3c4 1d7beM3c5 1d7bfM3c6 1d7c0M3c7 1d7c1M3c8 1d7c2M3c9 1d7c3M2202 ",
    "1d7c4M3b5 1d7c5M3b8 1d7c6M3ba 1d7c7M3c6 1d7c8M3c1 1d7c9M3c0 1d7caM3dd 1d7ccX 1d7ceM30 1d7cfM31 ",
    "1d7d0M32 1d7d1M33 1d7d2M34 1d7d3M35 1d7d4M36 1d7d5M37 1d7d6M38 1d7d7M39 1d7d8M30 1d7d9M31 ",
    "1d7daM32 1d7dbM33 1d7dcM34 1d7ddM35 1d7deM36 1d7dfM37 1d7e0M38 1d7e1M39 1d7e2M30 1d7e3M31 ",
    "1d7e4M32 1d7e5M33 1d7e6M34 1d7e7M35 1d7e8M36 1d7e9M37 1d7eaM38 1d7ebM39 1d7ecM30 1d7edM31 ",
    "1d7eeM32 1d7efM33 1d7f0M34 1d7f1M35 1d7f2M36 1d7f3M37 1d7f4M38 1d7f5M39 1d7f6M30 1d7f7M31 ",
    "1d7f8M32 1d7f9M33 1d7faM34 1d7fbM35 1d7fcM36 1d7fdM37 1d7feM38 1d7ffM39 1d800V 1da8cX 1da9bV ",
    "1daa0X 1daa1V 1dab0X 1df00V 1df1fX 1df25V 1df2bX 1e000V 1e007X 1e008V 1e019X 1e01bV 1e022X ",
    "1e023V 1e025X 1e026V 1e02bX 1e030M430 1e031M431 1e032M432 1e033M433 1e034M434 1e035M435 ",
    "1e036M436 1e037M437 1e038M438 1e039M43a 1e03aM43b 1e03bM43c 1e03cM43e 1e03dM43f 1e03eM440 ",
    "1e03fM441 1e040M442 1e041M443 1e042M444 1e043M445 1e044M446 1e045M447 1e046M448 1e047M44b ",
    "1e048M44d 1e049M44e 1e04aMa689 1e04bM4d9 1e04cM456 1e04dM458 1e04eM4e9 1e04fM4af 1e050M4cf ",
    "1e051M430 1e052M431 1e053M432 1e054M433 1e055M434 1e056M435 1e057M436 1e058M437 1e059M438 ",
    "1e05aM43a 1e05bM43b 1e05cM43e 1e05dM43f 1e05eM441 1e05fM443 1e060M444 1e061M445 1e062M446 ",
    "1e063M447 1e064M448 1e065M44a 1e066M44b 1e067M491 1e068M456 1e069M455 1e06aM45f 1e06bM4ab ",
    "1e06cMa651 1e06dM4b1 1e06eX 1e08fV 1e090X 1e100V 1e12dX 1e130V 1e13eX 1e140V 1e14aX 1e14eV ",
    "1e150X 1e290V 1e2afX 1e2c0V 1e2faX 1e2ffV 1e300X 1e4d0V 1e4faX 1e5d0V 1e5fbX 1e5ffV 1e600X ",
    "1e6c0V 1e6dfX 1e6e0V 1e6f6X 1e6feV 1e700X 1e7e0V 1e7e7X 1e7e8V 1e7ecX 1e7edV 1e7efX 1e7f0V ",
    "1e7ffX 1e800V 1e8c5X 1e8c7V 1e8d7X 1e900M1e922 1e901M1e923 1e902M1e924 1e903M1e925 1e904M1e926 ",
    "1e905M1e927 1e906M1e928 1e907M1e929 1e908M1e92a 1e909M1e92b 1e90aM1e92c 1e90bM1e92d 1e90cM1e92e ",
    "1e90dM1e92f 1e90eM1e930 1e90fM1e931 1e910M1e932 1e911M1e933 1e912M1e934 1e913M1e935 1e914M1e936 ",
    "1e915M1e937 1e916M1e938 1e917M1e939 1e918M1e93a 1e919M1e93b 1e91aM1e93c 1e91bM1e93d 1e91cM1e93e ",
    "1e91dM1e93f 1e91eM1e940 1e91fM1e941 1e920M1e942 1e921M1e943 1e922V 1e94cX 1e950V 1e95aX 1e95eV ",
    "1e960X 1ec71V 1ecb5X 1ed01V 1ed3eX 1ee00M627 1ee01M628 1ee02M62c 1ee03M62f 1ee04X 1ee05M648 ",
    "1ee06M632 1ee07M62d 1ee08M637 1ee09M64a 1ee0aM643 1ee0bM644 1ee0cM645 1ee0dM646 1ee0eM633 ",
    "1ee0fM639 1ee10M641 1ee11M635 1ee12M642 1ee13M631 1ee14M634 1ee15M62a 1ee16M62b 1ee17M62e ",
    "1ee18M630 1ee19M636 1ee1aM638 1ee1bM63a 1ee1cM66e 1ee1dM6ba 1ee1eM6a1 1ee1fM66f 1ee20X 1ee21M628 ",
    "1ee22M62c 1ee23X 1ee24M647 1ee25X 1ee27M62d 1ee28X 1ee29M64a 1ee2aM643 1ee2bM644 1ee2cM645 ",
    "1ee2dM646 1ee2eM633 1ee2fM639 1ee30M641 1ee31M635 1ee32M642 1ee33X 1ee34M634 1ee35M62a 1ee36M62b ",
    "1ee37M62e 1ee38X 1ee39M636 1ee3aX 1ee3bM63a 1ee3cX 1ee42M62c 1ee43X 1ee47M62d 1ee48X 1ee49M64a ",
    "1ee4aX 1ee4bM644 1ee4cX 1ee4dM646 1ee4eM633 1ee4fM639 1ee50X 1ee51M635 1ee52M642 1ee53X ",
    "1ee54M634 1ee55X 1ee57M62e 1ee58X 1ee59M636 1ee5aX 1ee5bM63a 1ee5cX 1ee5dM6ba 1ee5eX 1ee5fM66f ",
    "1ee60X 1ee61M628 1ee62M62c 1ee63X 1ee64M647 1ee65X 1ee67M62d 1ee68M637 1ee69M64a 1ee6aM643 ",
    "1ee6bX 1ee6cM645 1ee6dM646 1ee6eM633 1ee6fM639 1ee70M641 1ee71M635 1ee72M642 1ee73X 1ee74M634 ",
    "1ee75M62a 1ee76M62b 1ee77M62e 1ee78X 1ee79M636 1ee7aM638 1ee7bM63a 1ee7cM66e 1ee7dX 1ee7eM6a1 ",
    "1ee7fX 1ee80M627 1ee81M628 1ee82M62c 1ee83M62f 1ee84M647 1ee85M648 1ee86M632 1ee87M62d 1ee88M637 ",
    "1ee89M64a 1ee8aX 1ee8bM644 1ee8cM645 1ee8dM646 1ee8eM633 1ee8fM639 1ee90M641 1ee91M635 1ee92M642 ",
    "1ee93M631 1ee94M634 1ee95M62a 1ee96M62b 1ee97M62e 1ee98M630 1ee99M636 1ee9aM638 1ee9bM63a 1ee9cX ",
    "1eea1M628 1eea2M62c 1eea3M62f 1eea4X 1eea5M648 1eea6M632 1eea7M62d 1eea8M637 1eea9M64a 1eeaaX ",
    "1eeabM644 1eeacM645 1eeadM646 1eeaeM633 1eeafM639 1eeb0M641 1eeb1M635 1eeb2M642 1eeb3M631 ",
    "1eeb4M634 1eeb5M62a 1eeb6M62b 1eeb7M62e 1eeb8M630 1eeb9M636 1eebaM638 1eebbM63a 1eebcX 1eef0V ",
    "1eef2X 1f000V 1f02cX 1f030V 1f094X 1f0a0V 1f0afX 1f0b1V 1f0c0X 1f0c1V 1f0d0X 1f0d1V 1f0f6X ",
    "1f101M30,2c 1f102M31,2c 1f103M32,2c 1f104M33,2c 1f105M34,2c 1f106M35,2c 1f107M36,2c 1f108M37,2c ",
    "1f109M38,2c 1f10aM39,2c 1f10bV 1f110M28,61,29 1f111M28,62,29 1f112M28,63,29 1f113M28,64,29 ",
    "1f114M28,65,29 1f115M28,66,29 1f116M28,67,29 1f117M28,68,29 1f118M28,69,29 1f119M28,6a,29 ",
    "1f11aM28,6b,29 1f11bM28,6c,29 1f11cM28,6d,29 1f11dM28,6e,29 1f11eM28,6f,29 1f11fM28,70,29 ",
    "1f120M28,71,29 1f121M28,72,29 1f122M28,73,29 1f123M28,74,29 1f124M28,75,29 1f125M28,76,29 ",
    "1f126M28,77,29 1f127M28,78,29 1f128M28,79,29 1f129M28,7a,29 1f12aM3014,73,3015 1f12bM63 1f12cM72 ",
    "1f12dM63,64 1f12eM77,7a 1f12fV 1f130M61 1f131M62 1f132M63 1f133M64 1f134M65 1f135M66 1f136M67 ",
    "1f137M68 1f138M69 1f139M6a 1f13aM6b 1f13bM6c 1f13cM6d 1f13dM6e 1f13eM6f 1f13fM70 1f140M71 ",
    "1f141M72 1f142M73 1f143M74 1f144M75 1f145M76 1f146M77 1f147M78 1f148M79 1f149M7a 1f14aM68,76 ",
    "1f14bM6d,76 1f14cM73,64 1f14dM73,73 1f14eM70,70,76 1f14fM77,63 1f150V 1f16aM6d,63 1f16bM6d,64 ",
    "1f16cM6d,72 1f16dV 1f190M64,6a 1f191V 1f1aeX 1f1e6V 1f200M307b,304b 1f201M30b3,30b3 1f202M30b5 ",
    "1f203X 1f210M624b 1f211M5b57 1f212M53cc 1f213M30c7 1f214M4e8c 1f215M591a 1f216M89e3 1f217M5929 ",
    "1f218M4ea4 1f219M6620 1f21aM7121 1f21bM6599 1f21cM524d 1f21dM5f8c 1f21eM518d 1f21fM65b0 ",
    "1f220M521d 1f221M7d42 1f222M751f 1f223M8ca9 1f224M58f0 1f225M5439 1f226M6f14 1f227M6295 ",
    "1f228M6355 1f229M4e00 1f22aM4e09 1f22bM904a 1f22cM5de6 1f22dM4e2d 1f22eM53f3 1f22fM6307 ",
    "1f230M8d70 1f231M6253 1f232M7981 1f233M7a7a 1f234M5408 1f235M6e80 1f236M6709 1f237M6708 ",
    "1f238M7533 1f239M5272 1f23aM55b6 1f23bM914d 1f23cX 1f240M3014,672c,3015 1f241M3014,4e09,3015 ",
    "1f242M3014,4e8c,3015 1f243M3014,5b89,3015 1f244M3014,70b9,3015 1f245M3014,6253,3015 ",
    "1f246M3014,76d7,3015 1f247M3014,52dd,3015 1f248M3014,6557,3015 1f249X 1f250M5f97 1f251M53ef ",
    "1f252X 1f260V 1f266X 1f300V 1f6d9X 1f6dcV 1f6edX 1f6f0V 1f6fdX 1f700V 1f7daX 1f7e0V 1f7ecX ",
    "1f7f0V 1f7f1X 1f800V 1f80cX 1f810V 1f848X 1f850V 1f85aX 1f860V 1f888X 1f890V 1f8aeX 1f8b0V ",
    "1f8bcX 1f8c0V 1f8c2X 1f8d0V 1f8d9X 1f900V 1fa58X 1fa60V 1fa6eX 1fa70V 1fa7dX 1fa80V 1fa8bX ",
    "1fa8eV 1fac7X 1fac8V 1fac9X 1facdV 1faddX 1fadfV 1faebX 1faefV 1faf9X 1fb00V 1fb93X 1fb94V ",
    "1fbf0M30 1fbf1M31 1fbf2M32 1fbf3M33 1fbf4M34 1fbf5M35 1fbf6M36 1fbf7M37 1fbf8M38 1fbf9M39 1fbfaV ",
    "1fbfbX 20000V 2a6e0X 2a700V 2b81eX 2b820V 2ceaeX 2ceb0V 2ebe1X 2ebf0V 2ee5eX 2f800M4e3d ",
    "2f801M4e38 2f802M4e41 2f803M20122 2f804M4f60 2f805M4fae 2f806M4fbb 2f807M5002 2f808M507a ",
    "2f809M5099 2f80aM50e7 2f80bM50cf 2f80cM349e 2f80dM2063a 2f80eM514d 2f80fM5154 2f810M5164 ",
    "2f811M5177 2f812M2051c 2f813M34b9 2f814M5167 2f815M518d 2f816M2054b 2f817M5197 2f818M51a4 ",
    "2f819M4ecc 2f81aM51ac 2f81bM51b5 2f81cM291df 2f81dM51f5 2f81eM5203 2f81fM34df 2f820M523b ",
    "2f821M5246 2f822M5272 2f823M5277 2f824M3515 2f825M52c7 2f826M52c9 2f827M52e4 2f828M52fa ",
    "2f829M5305 2f82aM5306 2f82bM5317 2f82cM5349 2f82dM5351 2f82eM535a 2f82fM5373 2f830M537d ",
    "2f831M537f 2f834M20a2c 2f835M7070 2f836M53ca 2f837M53df 2f838M20b63 2f839M53eb 2f83aM53f1 ",
    "2f83bM5406 2f83cM549e 2f83dM5438 2f83eM5448 2f83fM5468 2f840M54a2 2f841M54f6 2f842M5510 ",
    "2f843M5553 2f844M5563 2f845M5584 2f847M5599 2f848M55ab 2f849M55b3 2f84aM55c2 2f84bM5716 ",
    "2f84cM5606 2f84dM5717 2f84eM5651 2f84fM5674 2f850M5207 2f851M58ee 2f852M57ce 2f853M57f4 ",
    "2f854M580d 2f855M578b 2f856M5832 2f857M5831 2f858M58ac 2f859M214e4 2f85aM58f2 2f85bM58f7 ",
    "2f85cM5906 2f85dM591a 2f85eM5922 2f85fM5962 2f860M216a8 2f861M216ea 2f862M59ec 2f863M5a1b ",
    "2f864M5a27 2f865M59d8 2f866M5a66 2f867M36ee 2f868M36fc 2f869M5b08 2f86aM5b3e 2f86cM219c8 ",
    "2f86dM5bc3 2f86eM5bd8 2f86fM5be7 2f870M5bf3 2f871M21b18 2f872M5bff 2f873M5c06 2f874M5f53 ",
    "2f875M5c22 2f876M3781 2f877M5c60 2f878M5c6e 2f879M5cc0 2f87aM5c8d 2f87bM21de4 2f87cM5d43 ",
    "2f87dM21de6 2f87eM5d6e 2f87fM5d6b 2f880M5d7c 2f881M5de1 2f882M5de2 2f883M382f 2f884M5dfd ",
    "2f885M5e28 2f886M5e3d 2f887M5e69 2f888M3862 2f889M22183 2f88aM387c 2f88bM5eb0 2f88cM5eb3 ",
    "2f88dM5eb6 2f88eM5eca 2f88fM2a392 2f890M5efe 2f891M22331 2f893M8201 2f894M5f22 2f896M38c7 ",
    "2f897M232b8 2f898M261da 2f899M5f62 2f89aM5f6b 2f89bM38e3 2f89cM5f9a 2f89dM5fcd 2f89eM5fd7 ",
    "2f89fM5ff9 2f8a0M6081 2f8a1M393a 2f8a2M391c 2f8a3M6094 2f8a4M226d4 2f8a5M60c7 2f8a6M6148 ",
    "2f8a7M614c 2f8a8M614e 2f8a9M614c 2f8aaM617a 2f8abM618e 2f8acM61b2 2f8adM61a4 2f8aeM61af ",
    "2f8afM61de 2f8b0M61f2 2f8b1M61f6 2f8b2M6210 2f8b3M621b 2f8b4M625d 2f8b5M62b1 2f8b6M62d4 ",
    "2f8b7M6350 2f8b8M22b0c 2f8b9M633d 2f8baM62fc 2f8bbM6368 2f8bcM6383 2f8bdM63e4 2f8beM22bf1 ",
    "2f8bfM6422 2f8c0M63c5 2f8c1M63a9 2f8c2M3a2e 2f8c3M6469 2f8c4M647e 2f8c5M649d 2f8c6M6477 ",
    "2f8c7M3a6c 2f8c8M654f 2f8c9M656c 2f8caM2300a 2f8cbM65e3 2f8ccM66f8 2f8cdM6649 2f8ceM3b19 ",
    "2f8cfM6691 2f8d0M3b08 2f8d1M3ae4 2f8d2M5192 2f8d3M5195 2f8d4M6700 2f8d5M669c 2f8d6M80ad ",
    "2f8d7M43d9 2f8d8M6717 2f8d9M671b 2f8daM6721 2f8dbM675e 2f8dcM6753 2f8ddM233c3 2f8deM3b49 ",
    "2f8dfM67fa 2f8e0M6785 2f8e1M6852 2f8e2M6885 2f8e3M2346d 2f8e4M688e 2f8e5M681f 2f8e6M6914 ",
    "2f8e7M3b9d 2f8e8M6942 2f8e9M69a3 2f8eaM69ea 2f8ebM6aa8 2f8ecM236a3 2f8edM6adb 2f8eeM3c18 ",
    "2f8efM6b21 2f8f0M238a7 2f8f1M6b54 2f8f2M3c4e 2f8f3M6b72 2f8f4M6b9f 2f8f5M6bba 2f8f6M6bbb ",
    "2f8f7M23a8d 2f8f8M21d0b 2f8f9M23afa 2f8faM6c4e 2f8fbM23cbc 2f8fcM6cbf 2f8fdM6ccd 2f8feM6c67 ",
    "2f8ffM6d16 2f900M6d3e 2f901M6d77 2f902M6d41 2f903M6d69 2f904M6d78 2f905M6d85 2f906M23d1e ",
    "2f907M6d34 2f908M6e2f 2f909M6e6e 2f90aM3d33 2f90bM6ecb 2f90cM6ec7 2f90dM23ed1 2f90eM6df9 ",
    "2f90fM6f6e 2f910M23f5e 2f911M23f8e 2f912M6fc6 2f913M7039 2f914M701e 2f915M701b 2f916M3d96 ",
    "2f917M704a 2f918M707d 2f919M7077 2f91aM70ad 2f91bM20525 2f91cM7145 2f91dM24263 2f91eM719c ",
    "2f91fM243ab 2f920M7228 2f921M7235 2f922M7250 2f923M24608 2f924M7280 2f925M7295 2f926M24735 ",
    "2f927M24814 2f928M737a 2f929M738b 2f92aM3eac 2f92bM73a5 2f92cM3eb8 2f92eM7447 2f92fM745c ",
    "2f930M7471 2f931M7485 2f932M74ca 2f933M3f1b 2f934M7524 2f935M24c36 2f936M753e 2f937M24c92 ",
    "2f938M7570 2f939M2219f 2f93aM7610 2f93bM24fa1 2f93cM24fb8 2f93dM25044 2f93eM3ffc 2f93fM4008 ",
    "2f940M76f4 2f941M250f3 2f942M250f2 2f943M25119 2f944M25133 2f945M771e 2f946M771f 2f948M774a ",
    "2f949M4039 2f94aM778b 2f94bM4046 2f94cM4096 2f94dM2541d 2f94eM784e 2f94fM788c 2f950M78cc ",
    "2f951M40e3 2f952M25626 2f953M7956 2f954M2569a 2f955M256c5 2f956M798f 2f957M79eb 2f958M412f ",
    "2f959M7a40 2f95aM7a4a 2f95bM7a4f 2f95cM2597c 2f95dM25aa7 2f95fM7aee 2f960M4202 2f961M25bab ",
    "2f962M7bc6 2f963M7bc9 2f964M4227 2f965M25c80 2f966M7cd2 2f967M42a0 2f968M7ce8 2f969M7ce3 ",
    "2f96aM7d00 2f96bM25f86 2f96cM7d63 2f96dM4301 2f96eM7dc7 2f96fM7e02 2f970M7e45 2f971M4334 ",
    "2f972M26228 2f973M26247 2f974M4359 2f975M262d9 2f976M7f7a 2f977M2633e 2f978M7f95 2f979M7ffa ",
    "2f97aM8005 2f97bM264da 2f97cM26523 2f97dM8060 2f97eM265a8 2f97fM8070 2f980M2335f 2f981M43d5 ",
    "2f982M80b2 2f983M8103 2f984M440b 2f985M813e 2f986M5ab5 2f987M267a7 2f988M267b5 2f989M23393 ",
    "2f98aM2339c 2f98bM8201 2f98cM8204 2f98dM8f9e 2f98eM446b 2f98fM8291 2f990M828b 2f991M829d ",
    "2f992M52b3 2f993M82b1 2f994M82b3 2f995M82bd 2f996M82e6 2f997M26b3c 2f998M82e5 2f999M831d ",
    "2f99aM8363 2f99bM83ad 2f99cM8323 2f99dM83bd 2f99eM83e7 2f99fM8457 2f9a0M8353 2f9a1M83ca ",
    "2f9a2M83cc 2f9a3M83dc 2f9a4M26c36 2f9a5M26d6b 2f9a6M26cd5 2f9a7M452b 2f9a8M84f1 2f9a9M84f3 ",
    "2f9aaM8516 2f9abM273ca 2f9acM8564 2f9adM26f2c 2f9aeM455d 2f9afM4561 2f9b0M26fb1 2f9b1M270d2 ",
    "2f9b2M456b 2f9b3M8650 2f9b4M865c 2f9b5M8667 2f9b6M8669 2f9b7M86a9 2f9b8M8688 2f9b9M870e ",
    "2f9baM86e2 2f9bbM8779 2f9bcM8728 2f9bdM876b 2f9beM8786 2f9bfM45d7 2f9c0M87e1 2f9c1M8801 ",
    "2f9c2M45f9 2f9c3M8860 2f9c4M8863 2f9c5M27667 2f9c6M88d7 2f9c7M88de 2f9c8M4635 2f9c9M88fa ",
    "2f9caM34bb 2f9cbM278ae 2f9ccM27966 2f9cdM46be 2f9ceM46c7 2f9cfM8aa0 2f9d0M8aed 2f9d1M8b8a ",
    "2f9d2M8c55 2f9d3M27ca8 2f9d4M8cab 2f9d5M8cc1 2f9d6M8d1b 2f9d7M8d77 2f9d8M27f2f 2f9d9M20804 ",
    "2f9daM8dcb 2f9dbM8dbc 2f9dcM8df0 2f9ddM208de 2f9deM8ed4 2f9dfM8f38 2f9e0M285d2 2f9e1M285ed ",
    "2f9e2M9094 2f9e3M90f1 2f9e4M9111 2f9e5M2872e 2f9e6M911b 2f9e7M9238 2f9e8M92d7 2f9e9M92d8 ",
    "2f9eaM927c 2f9ebM93f9 2f9ecM9415 2f9edM28bfa 2f9eeM958b 2f9efM4995 2f9f0M95b7 2f9f1M28d77 ",
    "2f9f2M49e6 2f9f3M96c3 2f9f4M5db2 2f9f5M9723 2f9f6M29145 2f9f7M2921a 2f9f8M4a6e 2f9f9M4a76 ",
    "2f9faM97e0 2f9fbM2940a 2f9fcM4ab2 2f9fdM29496 2f9feM980b 2fa00M9829 2fa01M295b6 2fa02M98e2 ",
    "2fa03M4b33 2fa04M9929 2fa05M99a7 2fa06M99c2 2fa07M99fe 2fa08M4bce 2fa09M29b30 2fa0aM9b12 ",
    "2fa0bM9c40 2fa0cM9cfd 2fa0dM4cce 2fa0eM4ced 2fa0fM9d67 2fa10M2a0ce 2fa11M4cf8 2fa12M2a105 ",
    "2fa13M2a20e 2fa14M2a291 2fa15M9ebb 2fa16M4d56 2fa17M9ef9 2fa18M9efe 2fa19M9f05 2fa1aM9f0f ",
    "2fa1bM9f16 2fa1cM9f3b 2fa1dM2a600 2fa1eX 30000V 3134bX 31350V 3347aX e0100I e01f0X"]

/-- Read one entry of the mapping table. -/
def readIdnaEntry (cs : List Char) : Nat × IdnaStatus :=
  let (start, rest) := hexPrefix cs
  let status := match rest with
    | 'V' :: _ => IdnaStatus.valid
    | 'D' :: _ => .deviation
    | 'I' :: _ => .ignored
    | 'M' :: more =>
      .mapped (((String.ofList more).splitOn ",").map fun p => (hexPrefix p.toList).1)
    | _ => .disallowed
  (start, status)

/-- The entries of the mapping table, in increasing order of start. -/
def idnaEntries : Array (Nat × IdnaStatus) :=
  ((idnaMappingText.splitOn " ").filter (!·.isEmpty)).toArray.map (readIdnaEntry ·.toList)

/-- The index of the last entry that starts at or below `n`, between `lo` and `hi`. -/
def idnaSearch (n lo hi : Nat) : Nat :=
  if _ : lo + 1 < hi then
    let mid := (lo + hi) / 2
    if (idnaEntries.getD mid (0, .disallowed)).1 ≤ n then idnaSearch n mid hi else idnaSearch n lo mid
  else lo
termination_by hi - lo

/-- **The status of a code point** in domain names. -/
def idnaStatus (n : Nat) : IdnaStatus :=
  if n < 0x80 then (if 0x41 ≤ n && n ≤ 0x5A then .mapped [n + 0x20] else .valid)
  else if (0xD800 ≤ n && n ≤ 0xDFFF) || 0x10FFFF < n then .disallowed
  else (idnaEntries.getD (idnaSearch n 0 idnaEntries.size) (0, .disallowed)).2

end SmartHelmet.Unicode
