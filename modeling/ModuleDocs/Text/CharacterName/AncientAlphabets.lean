/-!
# Names of characters: ancient alphabets

The names of the characters from U+10000 on: alphabets that are mostly no longer in use.
-/
set_option autoImplicit false

namespace ModuleDocs.Text.CharacterName

def firstAncientNames : List String :=
    ["10000:0LINEAR B SYLLABLE B008 A;3B038 E;3B028 I;3B061 O;3B010 U;3B001 DA;3B045 DE;3B007 DI",
    "3B014 DO;3B051 DU;3B057 JA;3B046 JE;1000D:3B036 JO;3B065 JU;3B077 KA;3B044 KE;3B067 KI;3B070 KO",
    "3B081 KU;3B080 MA;3B013 ME;3B073 MI;3B015 MO;3B023 MU;3B006 NA;3B024 NE;3B030 NI;3B052 NO",
    "3B055 NU;3B003 PA;3B072 PE;3B039 PI;3B011 PO;3B050 PU;3B016 QA;3B078 QE;3B021 QI;3B032 QO",
    "10028:3B060 RA;3B027 RE;3B053 RI;3B002 RO;3B026 RU;3B031 SA;3B009 SE;3B041 SI;3B012 SO;3B058 SU",
    "3B059 TA;3B004 TE;3B037 TI;3B005 TO;3B069 TU;3B054 WA;3B075 WE;3B040 WI;3B042 WO;1003C:3B017 ZA",
    "3B074 ZE;1003F:3B020 ZO;3B025 A2;3B043 A3;3B085 AU;3B071 DWE;3B090 DWO;3B048 NWA;3B029 PU2",
    "3B062 PTE;3B076 RA2;3B033 RA3;3B068 RO2;3B066 TA2;3B087 TWE;3B091 TWO;10050:2SYMBOL B018;3B019",
    "3B022;3B034;3B047;3B049;3B056;3B063;3B064;3B079;3B082;3B083;3B086;3B089;10080:2IDEOGRAM B100 MAN",
    "3B102 WOMAN;3B104 DEER;3B105 EQUID;3B105F MARE;3B105M STALLION;3B106F EWE;3B106M RAM",
    "3B107F SHE-GOAT;3B107M HE-GOAT;3B108F SOW;3B108M BOAR;3B109F COW;3B109M BULL;3B120 WHEAT",
    "3B121 BARLEY;3B122 OLIVE;3B123 SPICE;3B125 CYPERUS;2MONOGRAM B127 KAPO;3B128 KANAKO",
    "2IDEOGRAM B130 OIL;3B131 WINE;3B132;2MONOGRAM B133 AREPA;3B135 MERI;2IDEOGRAM B140 BRONZE",
    "3B141 GOLD;3B142;3B145 WOOL;3B146;3B150;3B151 HORN;3B152;3B153;3B154;2MONOGRAM B156 TURO2",
    "2IDEOGRAM B157;3B158;3B159 CLOTH;3B160;3B161;3B162 GARMENT;3B163 ARMOUR;3B164;3B165;3B166;3B167",
    "3B168;3B169;3B170;3B171;3B172;3B173 MONTH;3B174;3B176 TREE;3B177;3B178;3B179;3B180;3B181;3B182",
    "3B183;3B184;3B185;3B189;3B190;3B191 HELMET;3B220 FOOTSTOOL;3B225 BATHTUB;3B230 SPEAR;3B231 ARROW",
    "3B232;3B233 SWORD;3B234;3B236;3B240 WHEELED CHARIOT;3B241 CHARIOT;3B242 CHARIOT FRAME",
    "3B243 WHEEL;3B245;3B246;2MONOGRAM B247 DIPTE;2IDEOGRAM B248;3B249;3B251;3B252;3B253;3B254 DART",
    "3B255;3B256;3B257;3B258;3B259;3VESSEL B155;4B200;4B201;4B202;4B203;4B204;4B205;4B206;4B207;4B208",
    "4B209;4B210;4B211;4B212;4B213;4B214;4B215;4B216;4B217;4B218;4B219;4B221;4B222;4B226;4B227;4B228",
    "4B229;4B250;4B305;10100:0AEGEAN WORD SEPARATOR LINE;3DOT;1CHECK MARK;10107:1NUMBER ONE;2TWO",
    "2THREE;2FOUR;2FIVE;2SIX;2SEVEN;2EIGHT;2NINE;2TEN;2TWENTY;2THIRTY;2FORTY;2FIFTY;2SIXTY;2SEVENTY",
    "2EIGHTY;2NINETY;2ONE HUNDRED;2TWO HUNDRED;2THREE HUNDRED;2FOUR HUNDRED;2FIVE HUNDRED",
    "2SIX HUNDRED;2SEVEN HUNDRED;2EIGHT HUNDRED;2NINE HUNDRED;2ONE THOUSAND;2TWO THOUSAND",
    "2THREE THOUSAND;2FOUR THOUSAND;2FIVE THOUSAND;2SIX THOUSAND;2SEVEN THOUSAND;2EIGHT THOUSAND",
    "2NINE THOUSAND;2TEN THOUSAND;2TWENTY THOUSAND;2THIRTY THOUSAND;2FORTY THOUSAND;2FIFTY THOUSAND",
    "2SIXTY THOUSAND;2SEVENTY THOUSAND;2EIGHTY THOUSAND;2NINETY THOUSAND;10137:1WEIGHT BASE UNIT",
    "2FIRST SUBUNIT;2SECOND SUBUNIT;2THIRD SUBUNIT;2FOURTH SUBUNIT;1DRY MEASURE FIRST SUBUNIT",
    "1LIQUID MEASURE FIRST SUBUNIT;1MEASURE SECOND SUBUNIT;2THIRD SUBUNIT",
    "0GREEK ACROPHONIC ATTIC ONE QUARTER;4HALF;4DRACHMA;3FIVE;3FIFTY;3FIVE HUNDRED;4THOUSAND",
    "3FIFTY THOUSAND;3FIVE TALENTS;3TEN TALENTS;3FIFTY TALENTS;3ONE HUNDRED TALENTS",
    "3FIVE HUNDRED TALENTS;3ONE THOUSAND TALENTS;3FIVE THOUSAND TALENTS;4STATERS;3TEN STATERS",
    "3FIFTY STATERS;3ONE HUNDRED STATERS;3FIVE HUNDRED STATERS;3ONE THOUSAND STATERS",
    "3TEN THOUSAND STATERS;3FIFTY THOUSAND STATERS;3TEN MNAS;2HERAEUM ONE PLETHRON;2THESPIAN ONE",
    "2HERMIONIAN ONE;2EPIDAUREAN TWO;2THESPIAN TWO;2CYRENAIC TWO DRACHMAS;2EPIDAUREAN TWO DRACHMAS",
    "2TROEZENIAN FIVE;3TEN;4ALTERNATE FORM;2HERMIONIAN TEN;2MESSENIAN TEN;2THESPIAN TEN;3THIRTY",
    "2TROEZENIAN FIFTY;4ALTERNATE FORM;2HERMIONIAN FIFTY;2THESPIAN FIFTY;3ONE HUNDRED;3THREE HUNDRED",
    "2EPIDAUREAN FIVE HUNDRED;2TROEZENIAN FIVE HUNDRED;2THESPIAN FIVE HUNDRED;2CARYSTIAN FIVE HUNDRED",
    "2NAXIAN FIVE HUNDRED;2THESPIAN ONE THOUSAND;3FIVE THOUSAND;2DELPHIC FIVE MNAS",
    "2STRATIAN FIFTY MNAS;1ONE HALF SIGN;4ALTERNATE FORM;1TWO THIRDS SIGN;1THREE QUARTERS SIGN",
    "1YEAR SIGN;1TALENT SIGN;1DRACHMA SIGN;1OBOL SIGN;1TWO OBOLS SIGN;1THREE OBOLS SIGN",
    "1FOUR OBOLS SIGN;1FIVE OBOLS SIGN;1METRETES SIGN;1KYATHOS BASE SIGN;1LITRA SIGN;1OUNKIA SIGN",
    "1XESTES SIGN;1ARTABE SIGN;1AROURA SIGN;1GRAMMA SIGN;1TRYBLION BASE SIGN;1ZERO SIGN",
    "1ONE QUARTER SIGN;1SINUSOID SIGN;1INDICTION SIGN;0NOMISMA SIGN;10190:0ROMAN SEXTANS SIGN",
    "1UNCIA SIGN;1SEMUNCIA SIGN;1SEXTULA SIGN;1DIMIDIA SEXTULA SIGN;1SILIQUA SIGN;1DENARIUS SIGN",
    "1QUINARIUS SIGN;1SESTERTIUS SIGN;1DUPONDIUS SIGN;1AS SIGN;1CENTURIAL SIGN;0ASCIA SYMBOL",
    "101A0:0GREEK SYMBOL TAU RHO;101D0:0PHAISTOS DISC SIGN PEDESTRIAN;3PLUMED HEAD;3TATTOOED HEAD",
    "3CAPTIVE;3CHILD;3WOMAN;3HELMET;3GAUNTLET;3TIARA;3ARROW;3BOW;3SHIELD;3CLUB;3MANACLES;3MATTOCK",
    "3SAW;3LID;3BOOMERANG;3CARPENTRY PLANE;3DOLIUM;3COMB;3SLING;3COLUMN;3BEEHIVE;3SHIP;3HORN;3HIDE",
    "3BULLS LEG;3CAT;3RAM;3EAGLE;3DOVE;3TUNNY;3BEE;3PLANE TREE;3VINE;3PAPYRUS;3ROSETTE;3LILY;3OX BACK",
    "3FLUTE;3GRATER;3STRAINER;3SMALL AXE;3WAVY BAND;3COMBINING OBLIQUE STROKE;10280:0LYCIAN LETTER A",
    "2E;2B;2BH;2G;2D;2I;2W;2Z;2TH;2J;2K;2Q;2L;2M;2N;2MM;2NN;2U;2P;2KK;2R;2S;2T;2TT;2AN;2EN;2H;2X",
    "102A0:0CARIAN LETTER A;2P2;2D;2L;2UUU;2R;2LD;2A2;2Q;2B;2M;2O;2D2;2T;2SH;2SH2;2S;2C-18;2U;2NN;2X",
    "2N;2TT2;2P;2SS;2I;2E;2UUUU;2K;2K2;2ND;2UU;2G;2G2;2ST;2ST2;2NG;2II;2C-39;2TT;2UUU2;2RR;2MB;2MB2",
    "2MB3;2MB4;2LD2;2E2;2UUU3;102E0:0COPTIC EPACT THOUSANDS MARK;2DIGIT ONE;3TWO;3THREE;3FOUR;3FIVE",
    "3SIX;3SEVEN;3EIGHT;3NINE;2NUMBER TEN;3TWENTY;3THIRTY;3FORTY;3FIFTY;3SIXTY;3SEVENTY;3EIGHTY",
    "3NINETY;3ONE HUNDRED;3TWO HUNDRED;3THREE HUNDRED;3FOUR HUNDRED;3FIVE HUNDRED;3SIX HUNDRED",
    "3SEVEN HUNDRED;3EIGHT HUNDRED;3NINE HUNDRED;10300:0OLD ITALIC LETTER A;3BE;3KE;3DE;3E;3VE;3ZE",
    "3HE;3THE;3I;3KA;3EL;3EM;3EN;3ESH;3O;3PE;3SHE;3KU;3ER;3ES;3TE;3U;3EKS;3PHE;3KHE;3EF;3ERS;3CHE;3II",
    "3UU;3ESS;2NUMERAL ONE;3FIVE;3TEN;3FIFTY;1032D:2LETTER YE;3NORTHERN TSE;3SOUTHERN TSE",
    "0GOTHIC LETTER AHSA;2BAIRKAN;2GIBA;2DAGS;2AIHVUS;2QAIRTHRA;2IUJA;2HAGL;2THIUTH;2EIS;2KUSMA",
    "2LAGUS;2MANNA;2NAUTHS;2JER;2URUS;2PAIRTHRA;2NINETY;2RAIDA;2SAUIL;2TEIWS;2WINJA;2FAIHU;2IGGWS",
    "2HWAIR;2OTHAL;2NINE HUNDRED;10350:0OLD PERMIC LETTER AN;3BUR;3GAI;3DOI;3E;3ZHOI;3DZHOI;3ZATA",
    "3DZITA;3I;3KOKE;3LEI;3MENOE;3NENOE;3VOOI;3PEEI;3REI;3SII;3TAI;3U;3CHERY;3SHOOI;3SHCHOOI;3YRY",
    "3YERU;3O;3OO;3EF;3HA;3TSIU;3VER;3YER;3YERI;3YAT;3IE;3YU;3YA;3IA;0COMBINING OLD PERMIC LETTER AN",
    "4DOI;4ZATA;4NENOE;4SII;10380:0UGARITIC LETTER ALPA;2BETA;2GAMLA;2KHA;2DELTA;2HO;2WO;2ZETA;2HOTA",
    "2TET;2YOD;2KAF;2SHIN;2LAMDA;2MEM;2DHAL;2NUN;2ZU;2SAMKA;2AIN;2PU;2SADE;2QOPA;2RASHA;2THANNA",
    "2GHAIN;2TO;2I;2U;2SSU;1039F:1WORD DIVIDER;0OLD PERSIAN SIGN A;3I;3U;3KA;3KU;3GA;3GU;3XA;3CA;3JA",
    "3JI;3TA;3TU;3DA;3DI;3DU;3THA;3PA;3BA;3FA;3NA;3NU;3MA;3MI;3MU;3YA;3VA;3VI;3RA;3RU;3LA;3SA;3ZA",
    "3SHA;3SSA;3HA;103C8:3AURAMAZDAA;3AURAMAZDAA-2;3AURAMAZDAAHA;3XSHAAYATHIYA;3DAHYAAUSH",
    "3DAHYAAUSH-2;3BAGA;3BUUMISH;2WORD DIVIDER;2NUMBER ONE;3TWO;3TEN;3TWENTY;3HUNDRED",
    "10400:0DESERET CAPITAL LETTER LONG I;4E;4A;4AH;4O;4OO;3SHORT I;4E;4A;4AH;4O;4OO;3AY;3OW;3WU;3YEE",
    "3H;3PEE;3BEE;3TEE;3DEE;3CHEE;3JEE;3KAY;3GAY;3EF;3VEE;3ETH;3THEE;3ES;3ZEE;3ESH;3ZHEE;3ER;3EL;3EM",
    "3EN;3ENG;3OI;3EW;1SMALL LETTER LONG I;4E;4A;4AH;4O;4OO;3SHORT I;4E;4A;4AH;4O;4OO;3AY;3OW;3WU",
    "3YEE;3H;3PEE;3BEE;3TEE;3DEE;3CHEE;3JEE;3KAY;3GAY;3EF;3VEE;3ETH;3THEE;3ES;3ZEE;3ESH;3ZHEE;3ER;3EL",
    "3EM;3EN;3ENG;3OI;3EW;0SHAVIAN LETTER PEEP;2TOT;2KICK;2FEE;2THIGH;2SO;2SURE;2CHURCH;2YEA;2HUNG",
    "2BIB;2DEAD;2GAG;2VOW;2THEY;2ZOO;2MEASURE;2JUDGE;2WOE;2HA-HA;2LOLL;2MIME;2IF;2EGG;2ASH;2ADO;2ON",
    "2WOOL;2OUT;2AH;2ROAR;2NUN;2EAT;2AGE;2ICE;2UP;2OAK;2OOZE;2OIL;2AWE;2ARE;2OR;2AIR;2ERR;2ARRAY;2EAR",
    "2IAN;2YEW;0OSMANYA LETTER ALEF;2BA;2TA;2JA;2XA;2KHA;2DEEL;2RA;2SA;2SHIIN;2DHA;2CAYN;2GA;2FA",
    "2QAAF;2KAAF;2LAAN;2MIIN;2NUUN;2WAW;2HA;2YA;2A;2E;2I;2O;2U;2AA;2EE;2OO;104A0:1DIGIT ZERO;2ONE",
    "2TWO;2THREE;2FOUR;2FIVE;2SIX;2SEVEN;2EIGHT;2NINE;104B0:0OSAGE CAPITAL LETTER A;3AI;3AIN;3AH;3BRA",
    "3CHA;3EHCHA;3E;3EIN;3HA;3HYA;3I;3KA;3EHKA;3KYA;3LA;3MA;3NA;3O;3OIN;3PA;3EHPA;3SA;3SHA;3TA;3EHTA",
    "3TSA;3EHTSA;3TSHA;3DHA;3U;3WA;3KHA;3GHA;3ZA;3ZHA;104D8:1SMALL LETTER A;3AI;3AIN;3AH;3BRA;3CHA",
    "3EHCHA;3E;3EIN;3HA;3HYA;3I;3KA;3EHKA;3KYA;3LA;3MA;3NA;3O;3OIN;3PA;3EHPA;3SA;3SHA;3TA;3EHTA;3TSA",
    "3EHTSA;3TSHA;3DHA;3U;3WA;3KHA;3GHA;3ZA;3ZHA;10500:0ELBASAN LETTER A;2BE;2CE;2CHE;2DE;2NDE;2DHE",
    "2EI;2E;2FE;2GE;2GJE;2HE;2I;2JE;2KE;2LE;2LLE;2ME;2NE;2NA;2NJE;2O;2PE;2QE;2RE;2RRE;2SE;2SHE;2TE",
    "2THE;2U;2VE;2XE;2Y;2ZE;2ZHE;2GHE;2GHAMMA;2KHE;10530:0CAUCASIAN ALBANIAN LETTER ALT;3BET;3GIM",
    "3DAT;3EB;3ZARL;3EYN;3ZHIL;3TAS;3CHA;3YOWD;3ZHA;3IRB;3SHA;3LAN;3INYA;3XEYN;3DYAN;3CAR;3JHOX;3KAR",
    "3LYIT;3HEYT;3QAY;3AOR;3CHOY;3CHI;3CYAY;3MAQ;3QAR;3NOWC;3DZYAY;3SHAK;3JAYN;3ON;3TYAY;3FAM;3DZAY",
    "3CHAT;3PEN;3GHEYS;3RAT;3SEYK;3VEYZ;3TIWR;3SHOY;3IWN;3CYAW;3CAYN;3YAYD;3PIWR;3KIW",
    "1056F:2CITATION MARK;0VITHKUQI CAPITAL LETTER A;3BBE;3BE;3CE;3CHE;3DE;3DHE;3EI;3E;3FE;3GA",
    "1057C:3HA;3HHA;3I;3IJE;3JE;3KA;3LA;3LLA;3ME;3NE;3NJE;3O;3PE;3QA;3RE;1058C:3SE;3SHE;3TE;3THE;3U",
    "3VE;3XE;10594:3Y;3ZE;10597:1SMALL LETTER A;3BBE;3BE;3CE;3CHE;3DE;3DHE;3EI;3E;3FE;3GA;105A3:3HA",
    "3HHA;3I;3IJE;3JE;3KA;3LA;3LLA;3ME;3NE;3NJE;3O;3PE;3QA;3RE;105B3:3SE;3SHE;3TE;3THE;3U;3VE;3XE",
    "105BB:3Y;3ZE;10600:0LINEAR A SIGN AB001;3AB002;3AB003;3AB004;3AB005;3AB006;3AB007;3AB008;3AB009",
    "3AB010;3AB011;3AB013;3AB016;3AB017;3AB020;3AB021;3AB021F;3AB021M;3AB022;3AB022F;3AB022M;3AB023",
    "3AB023M;3AB024;3AB026;3AB027;3AB028;3A028B;3AB029;3AB030;3AB031;3AB034;3AB037;3AB038;3AB039",
    "3AB040;3AB041;3AB044;3AB045;3AB046;3AB047;3AB048;3AB049;3AB050;3AB051;3AB053;3AB054;3AB055",
    "3AB056;3AB057;3AB058;3AB059;3AB060;3AB061;3AB065;3AB066;3AB067;3AB069;3AB070;3AB073;3AB074",
    "3AB076;3AB077;3AB078;3AB079;3AB080;3AB081;3AB082;3AB085;3AB086;3AB087;3A100-102;3AB118;3AB120",
    "3A120B;3AB122;3AB123;3AB131A;3AB131B;3A131C;3AB164;3AB171;3AB180;3AB188;3AB191;3A301;3A302;3A303",
    "3A304;3A305;3A306;3A307;3A308;3A309A;3A309B;3A309C;3A310;3A311;3A312;3A313A;3A313B;3A313C;3A314",
    "3A315;3A316;3A317;3A318;3A319;3A320;3A321;3A322;3A323;3A324;3A325;3A326;3A327;3A328;3A329;3A330",
    "3A331;3A332;3A333;3A334;3A335;3A336;3A337;3A338;3A339;3A340;3A341;3A342;3A343;3A344;3A345;3A346",
    "3A347;3A348;3A349;3A350;3A351;3A352;3A353;3A354;3A355;3A356;3A357;3A358;3A359;3A360;3A361;3A362",
    "3A363;3A364;3A365;3A366;3A367;3A368;3A369;3A370;3A371;3A400-VAS;3A401-VAS;3A402-VAS;3A403-VAS",
    "3A404-VAS;3A405-VAS;3A406-VAS;3A407-VAS;3A408-VAS;3A409-VAS;3A410-VAS;3A411-VAS;3A412-VAS",
    "3A413-VAS;3A414-VAS;3A415-VAS;3A416-VAS;3A417-VAS;3A418-VAS;3A501;3A502;3A503;3A504;3A505;3A506",
    "3A508;3A509;3A510;3A511;3A512;3A513;3A515;3A516;3A520;3A521;3A523;3A524;3A525;3A526;3A527;3A528",
    "3A529;3A530;3A531;3A532;3A534;3A535;3A536;3A537;3A538;3A539;3A540;3A541;3A542;3A545;3A547;3A548",
    "3A549;3A550;3A551;3A552;3A553;3A554;3A555;3A556;3A557;3A559;3A563;3A564;3A565;3A566;3A568;3A569",
    "3A570;3A571;3A572;3A573;3A574;3A575;3A576;3A577;3A578;3A579;3A580;3A581;3A582;3A583;3A584;3A585",
    "3A586;3A587;3A588;3A589;3A591;3A592;3A594;3A595;3A596;3A598;3A600;3A601;3A602;3A603;3A604;3A606",
    "3A608;3A609;3A610;3A611;3A612;3A613;3A614;3A615;3A616;3A617;3A618;3A619;3A620;3A621;3A622;3A623",
    "3A624;3A626;3A627;3A628;3A629;3A634;3A637;3A638;3A640;3A642;3A643;3A644;3A645;3A646;3A648;3A649",
    "3A651;3A652;3A653;3A654;3A655;3A656;3A657;3A658;3A659;3A660;3A661;3A662;3A663;3A664",
    "10740:3A701 A;3A702 B;3A703 D;3A704 E;3A705 F;3A706 H;3A707 J;3A708 K;3A709 L;3A709-2 L2",
    "3A709-3 L3;3A709-4 L4;3A709-6 L6;3A710 W;3A711 X;3A712 Y;3A713 OMEGA;3A714 ABB;3A715 BB;3A717 DD",
    "3A726 EYYY;3A732 JE;10760:3A800;3A801;3A802;3A803;3A804;3A805;3A806;3A807",
    "10780:0MODIFIER LETTER SMALL CAPITAL AA;2SUPERSCRIPT TRIANGULAR COLON;3HALF TRIANGULAR COLON",
    "2SMALL AE;3CAPITAL B;3B WITH HOOK;10787:3DZ DIGRAPH;5WITH RETROFLEX HOOK;6CURL;3DEZH DIGRAPH",
    "3D WITH TAIL;5HOOK;6AND TAIL;3REVERSED E;3CLOSED REVERSED OPEN E;3FENG DIGRAPH;3RAMS HORN",
    "3CAPITAL G;3G WITH HOOK;3CAPITAL G WITH HOOK;3H WITH STROKE;3CAPITAL H;3HENG WITH HOOK",
    "3DOTLESS J WITH STROKE AND HOOK;3LS DIGRAPH;3LZ DIGRAPH;3L WITH BELT;3CAPITAL L WITH BELT",
    "3L WITH RETROFLEX HOOK AND BELT;3LEZH;4WITH RETROFLEX HOOK;3TURNED Y;5WITH BELT;3O WITH STROKE",
    "3CAPITAL OE;3CLOSED OMEGA;3Q;3TURNED R WITH LONG LEG;8AND RETROFLEX HOOK;3R WITH TAIL;5FISHHOOK",
    "3CAPITAL R;3TC DIGRAPH WITH CURL;3TS DIGRAPH;5WITH RETROFLEX HOOK;3TESH DIGRAPH",
    "3T WITH RETROFLEX HOOK;3V WITH RIGHT HOOK;107B2:3CAPITAL Y;2GLOTTAL STOP WITH STROKE",
    "2REVERSED GLOTTAL STOP WITH STROKE;2BILABIAL CLICK;2DENTAL CLICK;2LATERAL CLICK;2ALVEOLAR CLICK",
    "2RETROFLEX CLICK WITH RETROFLEX HOOK;2SMALL S WITH CURL;10800:0CYPRIOT SYLLABLE A;2E;2I;2O;2U",
    "2JA;10808:2JO;1080A:2KA;2KE;2KI;2KO;2KU;2LA;2LE;2LI;2LO;2LU;2MA;2ME;2MI;2MO;2MU;2NA;2NE;2NI;2NO",
    "2NU;2PA;2PE;2PI;2PO;2PU;2RA;2RE;2RI;2RO;2RU;2SA;2SE;2SI;2SO;2SU;2TA;2TE;2TI;2TO;2TU;2WA;2WE;2WI",
    "2WO;10837:2XA;2XE;1083C:2ZA;1083F:2ZO;0IMPERIAL ARAMAIC LETTER ALEPH;3BETH;3GIMEL;3DALETH;3HE",
    "3WAW;3ZAYIN;3HETH;3TETH;3YODH;3KAPH;3LAMEDH;3MEM;3NUN;3SAMEKH;3AYIN;3PE;3SADHE;3QOPH;3RESH;3SHIN",
    "3TAW;10857:2SECTION SIGN;2NUMBER ONE;3TWO;3THREE;3TEN;3TWENTY;3ONE HUNDRED;4THOUSAND",
    "3TEN THOUSAND;0PALMYRENE LETTER ALEPH;2BETH;2GIMEL;2DALETH;2HE;2WAW;2ZAYIN;2HETH;2TETH;2YODH",
    "2KAPH;2LAMEDH;2MEM;2FINAL NUN;2NUN;2SAMEKH;2AYIN;2PE;2SADHE;2QOPH;2RESH;2SHIN;2TAW",
    "1LEFT-POINTING FLEURON;1RIGHT-POINTING FLEURON;1NUMBER ONE;2TWO;2THREE;2FOUR;2FIVE;2TEN;2TWENTY",
    "0NABATAEAN LETTER FINAL ALEPH;2ALEPH;2FINAL BETH;2BETH;2GIMEL;2DALETH;2FINAL HE;2HE;2WAW;2ZAYIN",
    "2HETH;2TETH;2FINAL YODH;2YODH;2FINAL KAPH;2KAPH;2FINAL LAMEDH;2LAMEDH;2FINAL MEM;2MEM;2FINAL NUN",
    "2NUN;2SAMEKH;2AYIN;2PE;2SADHE;2QOPH;2RESH;2FINAL SHIN;2SHIN;2TAW;108A7:1NUMBER ONE;2TWO;2THREE",
    "2FOUR;1CRUCIFORM NUMBER FOUR;1NUMBER FIVE;2TEN;2TWENTY;2ONE HUNDRED;108E0:0HATRAN LETTER ALEPH",
    "2BETH;2GIMEL;2DALETH-RESH;2HE;2WAW;2ZAYN;2HETH;2TETH;2YODH;2KAPH;2LAMEDH;2MEM;2NUN;2SAMEKH;2AYN",
    "2PE;2SADHE;2QOPH;108F4:2SHIN;2TAW;108FB:1NUMBER ONE;2FIVE;2TEN;2TWENTY;2ONE HUNDRED",
    "0PHOENICIAN LETTER ALF;2BET;2GAML;2DELT;2HE;2WAU;2ZAI;2HET;2TET;2YOD;2KAF;2LAMD;2MEM;2NUN;2SEMK",
    "2AIN;2PE;2SADE;2QOF;2ROSH;2SHIN;2TAU;1NUMBER ONE;2TEN;2TWENTY;2ONE HUNDRED;2TWO;2THREE",
    "1091F:1WORD SEPARATOR;0LYDIAN LETTER A;2B;2G;2D;2E;2V;2I;2Y;2K;2L;2M;2N;2O;2R;2SS;2T;2U;2F;2Q;2S",
    "2TT;2AN;2EN;2LY;2NN;2C;1093F:1TRIANGULAR MARK;10980:0MEROITIC HIEROGLYPHIC LETTER A;3E;3I;3O;3YA",
    "3WA;3BA;3BA-2;3PA;3MA;3NA;3NA-2;3NE;3NE-2;3RA;3RA-2;3LA;3KHA;3HHA;3SA;3SA-2;3SE;3KA;3QA;3TA",
    "3TA-2;3TE;3TE-2;3TO;3DA;2SYMBOL VIDJ;3VIDJ-2;1CURSIVE LETTER A;3E;3I;3O;3YA;3WA;3BA;3PA;3MA;3NA",
    "3NE;3RA;3LA;3KHA;3HHA;3SA;3ARCHAIC SA;3SE;3KA;3QA;3TA;3TE;3TO;3DA",
    "109BC:2FRACTION ELEVEN TWELFTHS;3ONE HALF;2LOGOGRAM RMT;3IMN;2NUMBER ONE;3TWO;3THREE;3FOUR;3FIVE",
    "3SIX;3SEVEN;3EIGHT;3NINE;3TEN;3TWENTY;3THIRTY;3FORTY;3FIFTY;3SIXTY;3SEVENTY;109D2:3ONE HUNDRED",
    "3TWO HUNDRED;3THREE HUNDRED;3FOUR HUNDRED;3FIVE HUNDRED;3SIX HUNDRED;3SEVEN HUNDRED",
    "3EIGHT HUNDRED;3NINE HUNDRED;3ONE THOUSAND;3TWO THOUSAND;3THREE THOUSAND;3FOUR THOUSAND",
    "3FIVE THOUSAND;3SIX THOUSAND;3SEVEN THOUSAND;3EIGHT THOUSAND;3NINE THOUSAND;3TEN THOUSAND",
    "3TWENTY THOUSAND;3THIRTY THOUSAND;3FORTY THOUSAND;3FIFTY THOUSAND;3SIXTY THOUSAND",
    "3SEVENTY THOUSAND;3EIGHTY THOUSAND;3NINETY THOUSAND;3ONE HUNDRED THOUSAND;3TWO HUNDRED THOUSAND",
    "3THREE HUNDRED THOUSAND;3FOUR HUNDRED THOUSAND;3FIVE HUNDRED THOUSAND;3SIX HUNDRED THOUSAND",
    "3SEVEN HUNDRED THOUSAND;3EIGHT HUNDRED THOUSAND;3NINE HUNDRED THOUSAND;2FRACTION ONE TWELFTH",
    "3TWO TWELFTHS;3THREE TWELFTHS;3FOUR TWELFTHS;3FIVE TWELFTHS;3SIX TWELFTHS;3SEVEN TWELFTHS",
    "3EIGHT TWELFTHS;3NINE TWELFTHS;3TEN TWELFTHS;0KHAROSHTHI LETTER A;1VOWEL SIGN I;3U;3VOCALIC R",
    "10A05:3E;3O;10A0C:2LENGTH MARK;1SIGN DOUBLE RING BELOW;2ANUSVARA;2VISARGA;1LETTER KA;2KHA;2GA",
    "2GHA;10A15:2CA;2CHA;2JA;10A19:2NYA;2TTA;2TTHA;2DDA;2DDHA;2NNA;2TA;2THA;2DA;2DHA;2NA;2PA;2PHA;2BA",
    "2BHA;2MA;2YA;2RA;2LA;2VA;2SHA;2SSA;2SA;2ZA;2HA;2KKA;2TTTHA;2TTTA;2VHA;10A38:1SIGN BAR ABOVE",
    "2CAUDA;2DOT BELOW;10A3F:1VIRAMA;1DIGIT ONE;2TWO;2THREE;2FOUR;1NUMBER TEN;2TWENTY;2ONE HUNDRED",
    "3THOUSAND;1FRACTION ONE HALF;10A50:1PUNCTUATION DOT;2SMALL CIRCLE;2CIRCLE;2CRESCENT BAR",
    "2MANGALAM;2LOTUS;2DANDA;2DOUBLE DANDA;2LINES;10A60:0OLD SOUTH ARABIAN LETTER HE;4LAMEDH;4HETH",
    "4MEM;4QOPH;4WAW;4SHIN;4RESH;4BETH;4TAW;4SAT;4KAPH;4NUN;4KHETH;4SADHE;4SAMEKH;4FE;4ALEF;4AYN",
    "4DHADHE;4GIMEL;4DALETH;4GHAYN;4TETH;4ZAYN;4DHALETH;4YODH;4THAW;4THETH;3NUMBER ONE;4FIFTY",
    "3NUMERIC INDICATOR;1NORTH ARABIAN LETTER HEH;4LAM;4HAH;4MEEM;4QAF;4WAW;4ES-2;4REH;4BEH;4TEH",
    "4ES-1;4KAF;4NOON;4KHAH;4SAD;4ES-3;4FEH;4ALEF;4AIN;4DAD;4GEEM;4DAL;4GHAIN;4TAH;4ZAIN;4THAL;4YEH",
    "4THEH;4ZAH;3NUMBER ONE;4TEN;4TWENTY;10AC0:0MANICHAEAN LETTER ALEPH;2BETH;2BHETH;2GIMEL;2GHIMEL",
    "2DALETH;2HE;2WAW;1SIGN UD;1LETTER ZAYIN;2ZHAYIN;2JAYIN;2JHAYIN;2HETH;2TETH;2YODH;2KAPH;2XAPH",
    "2KHAPH;2LAMEDH;2DHAMEDH;2THAMEDH;2MEM;2NUN;2SAMEKH;2AYIN;2AAYIN;2PE;2FE;2SADHE;2QOPH;2XOPH",
    "2QHOPH;2RESH;2SHIN;2SSHIN;2TAW;1ABBREVIATION MARK ABOVE;3BELOW;10AEB:1NUMBER ONE;2FIVE;2TEN",
    "2TWENTY;2ONE HUNDRED;1PUNCTUATION STAR;2FLEURON;2DOUBLE DOT WITHIN DOT;2DOT WITHIN DOT;3",
    "2TWO DOTS;2LINE FILLER;10B00:0AVESTAN LETTER A;2AA;2AO;2AAO;2AN;2AAN;2AE;2AEE;2E;2EE;2O;2OO;2I",
    "2II;2U;2UU;2KE;2XE;2XYE;2XVE;2GE;2GGE;2GHE;2CE;2JE;2TE;2THE;2DE;2DHE;2TTE;2PE;2FE;2BE;2BHE;2NGE",
    "2NGYE;2NGVE;2NE;2NYE;2NNE;2ME;2HME;2YYE;2YE;2VE;2RE;2LE;2SE;2ZE;2SHE;2ZHE;2SHYE;2SSHE;2HE",
    "10B39:1ABBREVIATION MARK;0TINY TWO DOTS OVER ONE DOT PUNCTUATION",
    "0SMALL TWO DOTS OVER ONE DOT PUNCTUATION;0LARGE TWO DOTS OVER ONE DOT PUNCTUATION",
    "1ONE DOT OVER TWO DOTS PUNCTUATION;1TWO RINGS OVER ONE RING PUNCTUATION",
    "1ONE RING OVER TWO RINGS PUNCTUATION;0INSCRIPTIONAL PARTHIAN LETTER ALEPH;3BETH;3GIMEL;3DALETH",
    "3HE;3WAW;3ZAYIN;3HETH;3TETH;3YODH;3KAPH;3LAMEDH;3MEM;3NUN;3SAMEKH;3AYIN;3PE;3SADHE;3QOPH;3RESH",
    "3SHIN;3TAW;10B58:2NUMBER ONE;3TWO;3THREE;3FOUR;3TEN;3TWENTY;3ONE HUNDRED;4THOUSAND",
    "1PAHLAVI LETTER ALEPH;3BETH;3GIMEL;3DALETH;3HE;3WAW-AYIN-RESH;3ZAYIN;3HETH;3TETH;3YODH;3KAPH",
    "3LAMEDH;3MEM-QOPH;3NUN;3SAMEKH;3PE;3SADHE;3SHIN;3TAW;10B78:2NUMBER ONE;3TWO;3THREE;3FOUR;3TEN",
    "3TWENTY;3ONE HUNDRED;4THOUSAND;0PSALTER PAHLAVI LETTER ALEPH;3BETH;3GIMEL;3DALETH;3HE",
    "3WAW-AYIN-RESH;3ZAYIN;3HETH;3YODH;3KAPH;3LAMEDH;3MEM-QOPH;3NUN;3SAMEKH;3PE;3SADHE;3SHIN;3TAW",
    "10B99:2SECTION MARK;2TURNED SECTION MARK;2FOUR DOTS WITH CROSS;5DOT;10BA9:2NUMBER ONE;3TWO",
    "3THREE;3FOUR;3TEN;3TWENTY;3ONE HUNDRED;10C00:0OLD TURKIC LETTER ORKHON A;3YENISEI A;4AE",
    "3ORKHON I;3YENISEI I;4E;3ORKHON O;4OE;3YENISEI OE;3ORKHON AB;3YENISEI AB;3ORKHON AEB",
    "3YENISEI AEB;3ORKHON AG;3YENISEI AG;3ORKHON AEG;3YENISEI AEG;3ORKHON AD;3YENISEI AD;3ORKHON AED",
    "4EZ;3YENISEI EZ;3ORKHON AY;3YENISEI AY;3ORKHON AEY;3YENISEI AEY;3ORKHON AEK;3YENISEI AEK",
    "3ORKHON OEK;3YENISEI OEK;3ORKHON AL;3YENISEI AL;3ORKHON AEL;4ELT;4EM;4AN;4AEN;3YENISEI AEN",
    "3ORKHON ENT;3YENISEI ENT;3ORKHON ENC;3YENISEI ENC;3ORKHON ENY;3YENISEI ENY;4ANG;3ORKHON ENG",
    "3YENISEI AENG;3ORKHON EP;4OP;4IC;4EC;3YENISEI EC;3ORKHON AQ;3YENISEI AQ;3ORKHON IQ;3YENISEI IQ",
    "3ORKHON OQ;3YENISEI OQ;3ORKHON AR;3YENISEI AR;3ORKHON AER;4AS;4AES;4ASH;3YENISEI ASH;3ORKHON ESH"]

def secondAncientNames : List String :=
    ["3YENISEI ESH;3ORKHON AT;3YENISEI AT;3ORKHON AET;3YENISEI AET;3ORKHON OT;4BASH",
    "10C80:1HUNGARIAN CAPITAL LETTER A;4AA;4EB;4AMB;4EC;4ENC;4ECS;4ED;4AND;4E;4CLOSE E;4EE;4EF;4EG",
    "4EGY;4EH;4I;4II;4EJ;4EK;4AK;4UNK;4EL;4ELY;4EM;4EN;4ENY;4O;4OO;4NIKOLSBURG OE;4RUDIMENTA OE;4OEE",
    "4EP;4EMP;4ER;4SHORT ER;4ES;4ESZ;4ET;4ENT;4ETY;4ECH;4U;4UU;4NIKOLSBURG UE;4RUDIMENTA UE;4EV;4EZ",
    "4EZS;4ENT-SHAPED SIGN;4US;10CC0:2SMALL LETTER A;4AA;4EB;4AMB;4EC;4ENC;4ECS;4ED;4AND;4E;4CLOSE E",
    "4EE;4EF;4EG;4EGY;4EH;4I;4II;4EJ;4EK;4AK;4UNK;4EL;4ELY;4EM;4EN;4ENY;4O;4OO;4NIKOLSBURG OE",
    "4RUDIMENTA OE;4OEE;4EP;4EMP;4ER;4SHORT ER;4ES;4ESZ;4ET;4ENT;4ETY;4ECH;4U;4UU;4NIKOLSBURG UE",
    "4RUDIMENTA UE;4EV;4EZ;4EZS;4ENT-SHAPED SIGN;4US;10CFA:2NUMBER ONE;3FIVE;3TEN;3FIFTY;3ONE HUNDRED",
    "4THOUSAND;0HANIFI ROHINGYA LETTER A;3BA;3PA;3TA;3TTA;3JA;3CA;3HA;3KHA;3FA;3DA;3DDA;3RA;3RRA;3ZA",
    "3SA;3SHA;3KA;3GA;3LA;3MA;3NA;3WA;3KINNA WA;3YA;3KINNA YA;3NGA;3NYA;3VA;2VOWEL A;3I;3U;3E;3O",
    "2MARK SAKIN;3NA KHONNA;2SIGN HARBAHAY;3TAHALA;3TANA;3TASSI;10D30:2DIGIT ZERO;3ONE;3TWO;3THREE",
    "3FOUR;3FIVE;3SIX;3SEVEN;3EIGHT;3NINE;10E60:0RUMI DIGIT ONE;2TWO;2THREE;2FOUR;2FIVE;2SIX;2SEVEN",
    "2EIGHT;2NINE;1NUMBER TEN;2TWENTY;2THIRTY;2FORTY;2FIFTY;2SIXTY;2SEVENTY;2EIGHTY;2NINETY",
    "2ONE HUNDRED;2TWO HUNDRED;2THREE HUNDRED;2FOUR HUNDRED;2FIVE HUNDRED;2SIX HUNDRED;2SEVEN HUNDRED",
    "2EIGHT HUNDRED;2NINE HUNDRED;1FRACTION ONE HALF;3QUARTER;3THIRD;2TWO THIRDS",
    "10E80:0YEZIDI LETTER ELIF;2BE;2PE;2PHE;2THE;2SE;2CIM;2CHIM;2CHHIM;2HHA;2XA;2DAL;2ZAL;2RA;2RHA",
    "2ZA;2JA;2SIN;2SHIN;2SAD;2DAD;2TA;2ZE;2EYN;2XHEYN;2FA;2VA;3ALTERNATE FORM;2QAF;2KAF;2KHAF;2GAF",
    "2LAM;2MIM;2NUN;2UM;2WAW;2OW;2EW;2HAY;2YOT;2ET;10EAB:1COMBINING HAMZA MARK;2MADDA MARK",
    "1HYPHENATION MARK;10EB0:1LETTER LAM WITH DOT ABOVE;2YOT WITH CIRCUMFLEX ABOVE",
    "10F00:0OLD SOGDIAN LETTER ALEPH;3FINAL ALEPH;3BETH;3FINAL BETH;3GIMEL;3HE;3FINAL HE;3WAW;3ZAYIN",
    "3HETH;3YODH;3KAPH;3LAMEDH;3MEM;3NUN;3FINAL NUN;5WITH VERTICAL TAIL;3SAMEKH;3AYIN;3ALTERNATE AYIN",
    "3PE;3SADHE;3FINAL SADHE;5WITH VERTICAL TAIL;3RESH-AYIN-DALETH;3SHIN;3TAW;3FINAL TAW",
    "5WITH VERTICAL TAIL;2NUMBER ONE;3TWO;3THREE;3FOUR;3FIVE;3TEN;3TWENTY;3THIRTY;3ONE HUNDRED",
    "2FRACTION ONE HALF;2LIGATURE AYIN-DALETH;10F30:0SOGDIAN LETTER ALEPH;2BETH;2GIMEL;2HE;2WAW",
    "2ZAYIN;2HETH;2YODH;2KAPH;2LAMEDH;2MEM;2NUN;2SAMEKH;2AYIN;2PE;2SADHE;2RESH-AYIN;2SHIN;2TAW;2FETH",
    "2LESH;1INDEPENDENT SHIN;1COMBINING DOT BELOW;2TWO DOTS BELOW;2DOT ABOVE;2TWO DOTS ABOVE",
    "2CURVE ABOVE;3BELOW;2HOOK ABOVE;3BELOW;2LONG HOOK BELOW;2RESH BELOW;2STROKE BELOW;1NUMBER ONE",
    "2TEN;2TWENTY;2ONE HUNDRED;1PUNCTUATION TWO VERTICAL BARS;5WITH DOTS;2CIRCLE WITH DOT",
    "2TWO CIRCLES WITH DOTS;2HALF CIRCLE WITH DOT;10F70:0OLD UYGHUR LETTER ALEPH;3BETH;3GIMEL-HETH",
    "3WAW;3ZAYIN;3FINAL HETH;3YODH;3KAPH;3LAMEDH;3MEM;3NUN;3SAMEKH;3PE;3SADHE;3RESH;3SHIN;3TAW;3LESH",
    "2COMBINING DOT ABOVE;4BELOW;3TWO DOTS ABOVE;5BELOW;2PUNCTUATION BAR;3TWO BARS;4DOTS;3FOUR DOTS",
    "10FB0:0CHORASMIAN LETTER ALEPH;2SMALL ALEPH;2BETH;2GIMEL;2DALETH;2HE;2WAW;2CURLED WAW;2ZAYIN",
    "2HETH;2YODH;2KAPH;2LAMEDH;2MEM;2NUN;2SAMEKH;2AYIN;2PE;2RESH;2SHIN;2TAW;1NUMBER ONE;2TWO;2THREE",
    "2FOUR;2TEN;2TWENTY;2ONE HUNDRED;10FE0:0ELYMAIC LETTER ALEPH;2BETH;2GIMEL;2DALETH;2HE;2WAW;2ZAYIN",
    "2HETH;2TETH;2YODH;2KAPH;2LAMEDH;2MEM;2NUN;2SAMEKH;2AYIN;2PE;2SADHE;2QOPH;2RESH;2SHIN;2TAW",
    "1LIGATURE ZAYIN-YODH;11000:0BRAHMI SIGN CANDRABINDU;2ANUSVARA;2VISARGA;2JIHVAMULIYA;2UPADHMANIYA",
    "1LETTER A;2AA;2I;2II;2U;2UU;2VOCALIC R;3RR;3L;3LL;2E;2AI;2O;2AU;2KA;2KHA;2GA;2GHA;2NGA;2CA;2CHA",
    "2JA;2JHA;2NYA;2TTA;2TTHA;2DDA;2DDHA;2NNA;2TA;2THA;2DA;2DHA;2NA;2PA;2PHA;2BA;2BHA;2MA;2YA;2RA;2LA",
    "2VA;2SHA;2SSA;2SA;2HA;2LLA;2OLD TAMIL LLLA;4RRA;4NNNA;1VOWEL SIGN AA;3BHATTIPROLU AA;3I;3II;3U",
    "3UU;3VOCALIC R;4RR;4L;4LL;3E;3AI;3O;3AU;1VIRAMA;1DANDA;1DOUBLE DANDA;1PUNCTUATION DOT",
    "2DOUBLE DOT;2LINE;2CRESCENT BAR;2LOTUS;11052:1NUMBER ONE;2TWO;2THREE;2FOUR;2FIVE;2SIX;2SEVEN",
    "2EIGHT;2NINE;2TEN;2TWENTY;2THIRTY;2FORTY;2FIFTY;2SIXTY;2SEVENTY;2EIGHTY;2NINETY;2ONE HUNDRED",
    "3THOUSAND;1DIGIT ZERO;2ONE;2TWO;2THREE;2FOUR;2FIVE;2SIX;2SEVEN;2EIGHT;2NINE",
    "1SIGN OLD TAMIL VIRAMA;1LETTER OLD TAMIL SHORT E;5O;1VOWEL SIGN OLD TAMIL SHORT E;6O",
    "1LETTER OLD TAMIL LLA;1107F:1NUMBER JOINER;0KAITHI SIGN CANDRABINDU;2ANUSVARA;2VISARGA;1LETTER A",
    "2AA;2I;2II;2U;2UU;2E;2AI;2O;2AU;2KA;2KHA;2GA;2GHA;2NGA;2CA;2CHA;2JA;2JHA;2NYA;2TTA;2TTHA;2DDA",
    "2DDDHA;2DDHA;2RHA;2NNA;2TA;2THA;2DA;2DHA;2NA;2PA;2PHA;2BA;2BHA;2MA;2YA;2RA;2LA;2VA;2SHA;2SSA;2SA",
    "2HA;1VOWEL SIGN AA;3I;3II;3U;3UU;3E;3AI;3O;3AU;1SIGN VIRAMA;2NUKTA;1ABBREVIATION SIGN",
    "1ENUMERATION SIGN;1NUMBER SIGN;1SECTION MARK;1DOUBLE SECTION MARK;1DANDA;1DOUBLE DANDA",
    "1VOWEL SIGN VOCALIC R;110CD:1NUMBER SIGN ABOVE;110D0:0SORA SOMPENG LETTER SAH;3TAH;3BAH;3CAH",
    "3DAH;3GAH;3MAH;3NGAH;3LAH;3NAH;3VAH;3PAH;3YAH;3RAH;3HAH;3KAH;3JAH;3NYAH;3AH;3EEH;3IH;3UH;3OH;3EH",
    "3MAE;110F0:2DIGIT ZERO;3ONE;3TWO;3THREE;3FOUR;3FIVE;3SIX;3SEVEN;3EIGHT;3NINE",
    "11100:0CHAKMA SIGN CANDRABINDU;2ANUSVARA;2VISARGA;1LETTER AA;2I;2U;2E;2KAA;2KHAA;2GAA;2GHAA",
    "2NGAA;2CAA;2CHAA;2JAA;2JHAA;2NYAA;2TTAA;2TTHAA;2DDAA;2DDHAA;2NNAA;2TAA;2THAA;2DAA;2DHAA;2NAA",
    "2PAA;2PHAA;2BAA;2BHAA;2MAA;2YYAA;2YAA;2RAA;2LAA;2WAA;2SAA;2HAA;1VOWEL SIGN A;3I;3II;3U;3UU;3E",
    "3AI;3O;3AU;3OI;1O MARK;1AU MARK;1VIRAMA;1MAAYYAA;11136:1DIGIT ZERO;2ONE;2TWO;2THREE;2FOUR;2FIVE",
    "2SIX;2SEVEN;2EIGHT;2NINE;1SECTION MARK;1DANDA;1DOUBLE DANDA;1QUESTION MARK;1LETTER LHAA",
    "1VOWEL SIGN AA;3EI;1LETTER VAA;11150:0MAHAJANI LETTER A;2I;2U;2E;2O;2KA;2KHA;2GA;2GHA;2CA;2CHA",
    "2JA;2JHA;2NYA;2TTA;2TTHA;2DDA;2DDHA;2NNA;2TA;2THA;2DA;2DHA;2NA;2PA;2PHA;2BA;2BHA;2MA;2RA;2LA;2VA",
    "2SA;2HA;2RRA;1SIGN NUKTA;1ABBREVIATION SIGN;1SECTION MARK;1LIGATURE SHRI",
    "11180:0SHARADA SIGN CANDRABINDU;2ANUSVARA;2VISARGA;1LETTER A;2AA;2I;2II;2U;2UU;2VOCALIC R;3RR;3L",
    "3LL;2E;2AI;2O;2AU;2KA;2KHA;2GA;2GHA;2NGA;2CA;2CHA;2JA;2JHA;2NYA;2TTA;2TTHA;2DDA;2DDHA;2NNA;2TA",
    "2THA;2DA;2DHA;2NA;2PA;2PHA;2BA;2BHA;2MA;2YA;2RA;2LA;2LLA;2VA;2SHA;2SSA;2SA;2HA;1VOWEL SIGN AA;3I",
    "3II;3U;3UU;3VOCALIC R;4RR;4L;4LL;3E;3AI;3O;3AU;1SIGN VIRAMA;2AVAGRAHA;2JIHVAMULIYA;2UPADHMANIYA",
    "1OM;1DANDA;1DOUBLE DANDA;1ABBREVIATION SIGN;1SEPARATOR;1SANDHI MARK;1SIGN NUKTA",
    "1VOWEL MODIFIER MARK;1EXTRA SHORT VOWEL MARK;1SUTRA MARK;1VOWEL SIGN PRISHTHAMATRA E",
    "1SIGN INVERTED CANDRABINDU;1DIGIT ZERO;2ONE;2TWO;2THREE;2FOUR;2FIVE;2SIX;2SEVEN;2EIGHT;2NINE",
    "1EKAM;1SIGN SIDDHAM;1HEADSTROKE;1CONTINUATION SIGN;1SECTION MARK-1;2MARK-2",
    "111E1:0SINHALA ARCHAIC DIGIT ONE;3TWO;3THREE;3FOUR;3FIVE;3SIX;3SEVEN;3EIGHT;3NINE;2NUMBER TEN",
    "3TWENTY;3THIRTY;3FORTY;3FIFTY;3SIXTY;3SEVENTY;3EIGHTY;3NINETY;3ONE HUNDRED;4THOUSAND",
    "11200:0KHOJKI LETTER A;2AA;2I;2U;2E;2AI;2O;2AU;2KA;2KHA;2GA;2GGA;2GHA;2NGA;2CA;2CHA;2JA;2JJA",
    "11213:2NYA;2TTA;2TTHA;2DDA;2DDHA;2NNA;2TA;2THA;2DA;2DDDA;2DHA;2NA;2PA;2PHA;2BA;2BBA;2BHA;2MA;2YA",
    "2RA;2LA;2VA;2SA;2HA;2LLA;1VOWEL SIGN AA;3I;3II;3U;3E;3AI;3O;3AU;1SIGN ANUSVARA;2VIRAMA;2NUKTA",
    "2SHADDA;1DANDA;1DOUBLE DANDA;1WORD SEPARATOR;1SECTION MARK;1DOUBLE SECTION MARK",
    "1ABBREVIATION SIGN;1SIGN SUKUN;11280:0MULTANI LETTER A;2I;2U;2E;2KA;2KHA;2GA;11288:2GHA",
    "1128A:2CA;2CHA;2JA;2JJA;1128F:2NYA;2TTA;2TTHA;2DDA;2DDDA;2DDHA;2NNA;2TA;2THA;2DA;2DHA;2NA;2PA",
    "2PHA;2BA;1129F:2BHA;2MA;2YA;2RA;2LA;2VA;2SA;2HA;2RRA;2RHA;1SECTION MARK",
    "112B0:0KHUDAWADI LETTER A;2AA;2I;2II;2U;2UU;2E;2AI;2O;2AU;2KA;2KHA;2GA;2GGA;2GHA;2NGA;2CA;2CHA",
    "2JA;2JJA;2JHA;2NYA;2TTA;2TTHA;2DDA;2DDDA;2RRA;2DDHA;2NNA;2TA;2THA;2DA;2DHA;2NA;2PA;2PHA;2BA;2BBA",
    "2BHA;2MA;2YA;2RA;2LA;2VA;2SHA;2SA;2HA;1SIGN ANUSVARA;1VOWEL SIGN AA;3I;3II;3U;3UU;3E;3AI;3O;3AU",
    "1SIGN NUKTA;2VIRAMA;112F0:1DIGIT ZERO;2ONE;2TWO;2THREE;2FOUR;2FIVE;2SIX;2SEVEN;2EIGHT;2NINE",
    "11300:0GRANTHA SIGN COMBINING ANUSVARA ABOVE;2CANDRABINDU;2ANUSVARA;2VISARGA;11305:1LETTER A;2AA",
    "2I;2II;2U;2UU;2VOCALIC R;3L;1130F:2EE;2AI;11313:2OO;2AU;2KA;2KHA;2GA;2GHA;2NGA;2CA;2CHA;2JA;2JHA",
    "2NYA;2TTA;2TTHA;2DDA;2DDHA;2NNA;2TA;2THA;2DA;2DHA;2NA;1132A:2PA;2PHA;2BA;2BHA;2MA;2YA;2RA",
    "11332:2LA;2LLA;11335:2VA;2SHA;2SSA;2SA;2HA;1133B:0COMBINING BINDU BELOW;0GRANTHA SIGN NUKTA",
    "2AVAGRAHA;1VOWEL SIGN AA;3I;3II;3U;3UU;3VOCALIC R;4RR;11347:3EE;3AI;1134B:3OO;3AU;1SIGN VIRAMA",
    "11350:1OM;11357:1AU LENGTH MARK;1135D:1SIGN PLUTA;1LETTER VEDIC ANUSVARA;3DOUBLE ANUSVARA",
    "2VOCALIC RR;3LL;1VOWEL SIGN VOCALIC L;4LL;11366:0COMBINING GRANTHA DIGIT ZERO;3ONE;3TWO;3THREE",
    "3FOUR;3FIVE;3SIX;11370:2LETTER A;3KA;3NA;3VI;3PA;11400:0NEWA LETTER A;2AA;2I;2II;2U;2UU",
    "2VOCALIC R;3RR;3L;3LL;2E;2AI;2O;2AU;2KA;2KHA;2GA;2GHA;2NGA;2NGHA;2CA;2CHA;2JA;2JHA;2NYA;2NYHA",
    "2TTA;2TTHA;2DDA;2DDHA;2NNA;2TA;2THA;2DA;2DHA;2NA;2NHA;2PA;2PHA;2BA;2BHA;2MA;2MHA;2YA;2RA;2RHA",
    "2LA;2LHA;2WA;2SHA;2SSA;2SA;2HA;1VOWEL SIGN AA;3I;3II;3U;3UU;3VOCALIC R;4RR;4L;4LL;3E;3AI;3O;3AU",
    "1SIGN VIRAMA;2CANDRABINDU;2ANUSVARA;2VISARGA;2NUKTA;2AVAGRAHA;2FINAL ANUSVARA;1OM;1SIDDHI;1DANDA",
    "1DOUBLE DANDA;1COMMA;1GAP FILLER;1ABBREVIATION SIGN;1DIGIT ZERO;2ONE;2TWO;2THREE;2FOUR;2FIVE",
    "2SIX;2SEVEN;2EIGHT;2NINE;1DOUBLE COMMA;1PLACEHOLDER MARK;1145D:1INSERTION SIGN;1SANDHI MARK",
    "1LETTER VEDIC ANUSVARA;1SIGN JIHVAMULIYA;2UPADHMANIYA;11480:0TIRHUTA ANJI;1LETTER A;2AA;2I;2II",
    "2U;2UU;2VOCALIC R;3RR;3L;3LL;2E;2AI;2O;2AU;2KA;2KHA;2GA;2GHA;2NGA;2CA;2CHA;2JA;2JHA;2NYA;2TTA",
    "2TTHA;2DDA;2DDHA;2NNA;2TA;2THA;2DA;2DHA;2NA;2PA;2PHA;2BA;2BHA;2MA;2YA;2RA;2LA;2VA;2SHA;2SSA;2SA",
    "2HA;1VOWEL SIGN AA;3I;3II;3U;3UU;3VOCALIC R;4RR;4L;4LL;3E;3SHORT E;3AI;3O;3SHORT O;3AU",
    "1SIGN CANDRABINDU;2ANUSVARA;2VISARGA;2VIRAMA;2NUKTA;2AVAGRAHA;1GVANG;1ABBREVIATION SIGN;1OM",
    "114D0:1DIGIT ZERO;2ONE;2TWO;2THREE;2FOUR;2FIVE;2SIX;2SEVEN;2EIGHT;2NINE;11580:0SIDDHAM LETTER A",
    "2AA;2I;2II;2U;2UU;2VOCALIC R;3RR;3L;3LL;2E;2AI;2O;2AU;2KA;2KHA;2GA;2GHA;2NGA;2CA;2CHA;2JA;2JHA",
    "2NYA;2TTA;2TTHA;2DDA;2DDHA;2NNA;2TA;2THA;2DA;2DHA;2NA;2PA;2PHA;2BA;2BHA;2MA;2YA;2RA;2LA;2VA;2SHA",
    "2SSA;2SA;2HA;1VOWEL SIGN AA;3I;3II;3U;3UU;3VOCALIC R;4RR;115B8:3E;3AI;3O;3AU;1SIGN CANDRABINDU",
    "2ANUSVARA;2VISARGA;2VIRAMA;2NUKTA;2SIDDHAM;1DANDA;1DOUBLE DANDA;1SEPARATOR DOT;2BAR",
    "1REPETITION MARK-1;2MARK-2;2MARK-3;1END OF TEXT MARK",
    "1SECTION MARK WITH TRIDENT AND U-SHAPED ORNAMENTS;6DOTTED CRESCENTS;4RAYS AND DOTTED CRESCENTS",
    "7DOUBLE CRESCENTS;7TRIPLE CRESCENTS;3DOUBLE RING;5WITH RAYS;3WITH DOUBLE CRESCENTS",
    "4TRIPLE CRESCENTS;4QUADRUPLE CRESCENTS;4SEPTUPLE CRESCENTS;4CIRCLES AND RAYS;6TWO ENCLOSURES",
    "6FOUR ENCLOSURES;1LETTER THREE-CIRCLE ALTERNATE I;2TWO-CIRCLE ALTERNATE I;4II;2ALTERNATE U",
    "1VOWEL SIGN ALTERNATE U;4UU;11600:0MODI LETTER A;2AA;2I;2II;2U;2UU;2VOCALIC R;3RR;3L;3LL;2E;2AI",
    "2O;2AU;2KA;2KHA;2GA;2GHA;2NGA;2CA;2CHA;2JA;2JHA;2NYA;2TTA;2TTHA;2DDA;2DDHA;2NNA;2TA;2THA;2DA",
    "2DHA;2NA;2PA;2PHA;2BA;2BHA;2MA;2YA;2RA;2LA;2VA;2SHA;2SSA;2SA;2HA;2LLA;1VOWEL SIGN AA;3I;3II;3U",
    "3UU;3VOCALIC R;4RR;4L;4LL;3E;3AI;3O;3AU;1SIGN ANUSVARA;2VISARGA;2VIRAMA;2ARDHACANDRA;1DANDA",
    "1DOUBLE DANDA;1ABBREVIATION SIGN;1SIGN HUVA;11650:1DIGIT ZERO;2ONE;2TWO;2THREE;2FOUR;2FIVE;2SIX",
    "2SEVEN;2EIGHT;2NINE;11660:0MONGOLIAN BIRGA WITH ORNAMENT;1ROTATED BIRGA",
    "1DOUBLE BIRGA WITH ORNAMENT;1TRIPLE BIRGA WITH ORNAMENT;1BIRGA WITH DOUBLE ORNAMENT",
    "1ROTATED BIRGA WITH ORNAMENT;4DOUBLE ORNAMENT;1INVERTED BIRGA;3WITH DOUBLE ORNAMENT;1SWIRL BIRGA",
    "3WITH ORNAMENT;4DOUBLE ORNAMENT;1TURNED SWIRL BIRGA WITH DOUBLE ORNAMENT;11680:0TAKRI LETTER A",
    "2AA;2I;2II;2U;2UU;2E;2AI;2O;2AU;2KA;2KHA;2GA;2GHA;2NGA;2CA;2CHA;2JA;2JHA;2NYA;2TTA;2TTHA;2DDA",
    "2DDHA;2NNA;2TA;2THA;2DA;2DHA;2NA;2PA;2PHA;2BA;2BHA;2MA;2YA;2RA;2LA;2VA;2SHA;2SA;2HA;2RRA",
    "1SIGN ANUSVARA;2VISARGA;1VOWEL SIGN AA;3I;3II;3U;3UU;3E;3AI;3O;3AU;1SIGN VIRAMA;2NUKTA",
    "1LETTER ARCHAIC KHA;1ABBREVIATION SIGN;116C0:1DIGIT ZERO;2ONE;2TWO;2THREE;2FOUR;2FIVE;2SIX",
    "2SEVEN;2EIGHT;2NINE;11700:0AHOM LETTER KA;2KHA;2NGA;2NA;2TA;2ALTERNATE TA;2PA;2PHA;2BA;2MA;2JA",
    "2CHA;2THA;2RA;2LA;2SA;2NYA;2HA;2A;2DA;2DHA;2GA;2ALTERNATE GA;2GHA;2BHA;2JHA;2ALTERNATE BA",
    "1171D:1CONSONANT SIGN MEDIAL LA;4RA;4LIGATING RA;1VOWEL SIGN A;3AA;3I;3II;3U;3UU;3E;3AW;3O;3AI",
    "3AM;1SIGN KILLER;11730:1DIGIT ZERO;2ONE;2TWO;2THREE;2FOUR;2FIVE;2SIX;2SEVEN;2EIGHT;2NINE",
    "1NUMBER TEN;2TWENTY;1SIGN SMALL SECTION;2SECTION;2RULAI;1SYMBOL VI;1LETTER CA;2TTA;2TTHA;2DDA",
    "2DDHA;2NNA;2LLA;11800:0DOGRA LETTER A;2AA;2I;2II;2U;2UU;2E;2AI;2O;2AU;2KA;2KHA;2GA;2GHA;2NGA;2CA",
    "2CHA;2JA;2JHA;2NYA;2TTA;2TTHA;2DDA;2DDHA;2NNA;2TA;2THA;2DA;2DHA;2NA;2PA;2PHA;2BA;2BHA;2MA;2YA",
    "2RA;2LA;2VA;2SHA;2SSA;2SA;2HA;2RRA;1VOWEL SIGN AA;3I;3II;3U;3UU;3VOCALIC R;4RR;3E;3AI;3O;3AU",
    "1SIGN ANUSVARA;2VISARGA;2VIRAMA;2NUKTA;1ABBREVIATION SIGN;118A0:0WARANG CITI CAPITAL LETTER NGAA",
    "4A;4WI;4YU;4YA;4YO;4II;4UU;4E;4O;4ANG;4GA;4KO;4ENY;4YUJ;4UC;4ENN;4ODD;4TTE;4NUNG;4DA;4AT;4AM;4BU",
    "4PU;4HIYO;4HOLO;4HORR;4HAR;4SSUU;4SII;4VIYO;2SMALL LETTER NGAA;4A;4WI;4YU;4YA;4YO;4II;4UU;4E;4O",
    "4ANG;4GA;4KO;4ENY;4YUJ;4UC;4ENN;4ODD;4TTE;4NUNG;4DA;4AT;4AM;4BU;4PU;4HIYO;4HOLO;4HORR;4HAR;4SSUU",
    "4SII;4VIYO;2DIGIT ZERO;3ONE;3TWO;3THREE;3FOUR;3FIVE;3SIX;3SEVEN;3EIGHT;3NINE;2NUMBER TEN;3TWENTY",
    "3THIRTY;3FORTY;3FIFTY;3SIXTY;3SEVENTY;3EIGHTY;3NINETY;118FF:2OM;0DIVES AKURU LETTER A;3AA;3I;3II",
    "3U;3UU;3E;11909:3O;1190C:3KA;3KHA;3GA;3GHA;3NGA;3CA;3CHA;3JA;11915:3NYA;3TTA;11918:3DDA;3DDHA",
    "3NNA;3TA;3THA;3DA;3DHA;3NA;3PA;3PHA;3BA;3BHA;3MA;3YA;3YYA;3RA;3LA;3VA;3SHA;3SSA;3SA;3HA;3LLA;3ZA",
    "2VOWEL SIGN AA;4I;4II;4U;4UU;4E;11937:4AI;4O;1193B:2SIGN ANUSVARA;3CANDRABINDU;3HALANTA;2VIRAMA",
    "2PREFIXED NASAL SIGN;2MEDIAL YA;2INITIAL RA;2MEDIAL RA;2SIGN NUKTA;2DOUBLE DANDA;2GAP FILLER",
    "2END OF TEXT MARK;11950:2DIGIT ZERO;3ONE;3TWO;3THREE;3FOUR;3FIVE;3SIX;3SEVEN;3EIGHT;3NINE",
    "119A0:0NANDINAGARI LETTER A;2AA;2I;2II;2U;2UU;2VOCALIC R;3RR;119AA:2E;2AI;2O;2AU;2KA;2KHA;2GA",
    "2GHA;2NGA;2CA;2CHA;2JA;2JHA;2NYA;2TTA;2TTHA;2DDA;2DDHA;2NNA;2TA;2THA;2DA;2DHA;2NA;2PA;2PHA;2BA",
    "2BHA;2MA;2YA;2RA;2LA;2VA;2SHA;2SSA;2SA;2HA;2LLA;2RRA;1VOWEL SIGN AA;3I;3II;3U;3UU;3VOCALIC R;4RR",
    "119DA:3E;3AI;3O;3AU;1SIGN ANUSVARA;2VISARGA;2VIRAMA;2AVAGRAHA;2SIDDHAM;1HEADSTROKE",
    "1VOWEL SIGN PRISHTHAMATRA E;11A00:0ZANABAZAR SQUARE LETTER A;2VOWEL SIGN I;4UE;4U;4E;4OE;4O;4AI",
    "4AU;4REVERSED I;3LENGTH MARK;2LETTER KA;3KHA;3GA;3GHA;3NGA;3CA;3CHA;3JA;3NYA;3TTA;3TTHA;3DDA",
    "3DDHA;3NNA;3TA;3THA;3DA;3DHA;3NA;3PA;3PHA;3BA;3BHA;3MA;3TSA;3TSHA;3DZA;3DZHA;3ZHA;3ZA;3-A;3YA",
    "3RA;3LA;3VA;3SHA;3SSA;3SA;3HA;3KSSA;2FINAL CONSONANT MARK;2SIGN VIRAMA;3CANDRABINDU",
    "4WITH ORNAMENT;3CANDRA WITH ORNAMENT;3ANUSVARA;3VISARGA;2CLUSTER-INITIAL LETTER RA",
    "2CLUSTER-FINAL LETTER YA;4RA;4LA;4VA;2INITIAL HEAD MARK;2CLOSING HEAD MARK;2MARK TSHEG;3SHAD",
    "3DOUBLE SHAD;3LONG TSHEG;2INITIAL DOUBLE-LINED HEAD MARK;2CLOSING DOUBLE-LINED HEAD MARK",
    "2SUBJOINER;11A50:0SOYOMBO LETTER A;1VOWEL SIGN I;3UE;3U;3E;3O;3OE;3AI;3AU;3VOCALIC R;4L",
    "2LENGTH MARK;1LETTER KA;2KHA;2GA;2GHA;2NGA;2CA;2CHA;2JA;2JHA;2NYA;2TTA;2TTHA;2DDA;2DDHA;2NNA;2TA",
    "2THA;2DA;2DHA;2NA;2PA;2PHA;2BA;2BHA;2MA;2TSA;2TSHA;2DZA;2ZHA;2ZA;2-A;2YA;2RA;2LA;2VA;2SHA;2SSA",
    "2SA;2HA;2KSSA;1SIGN JIHVAMULIYA;2UPADHMANIYA;1CLUSTER-INITIAL LETTER RA;3LA;3SHA;3SA",
    "1FINAL CONSONANT SIGN G;4K;4NG;4D;4N;4B;4M;4R;4L;4SH;4S;4-A;1SIGN ANUSVARA;2VISARGA",
    "1GEMINATION MARK;1SUBJOINER;1MARK TSHEG;2SHAD;2DOUBLE SHAD;2PLUTA",
    "1HEAD MARK WITH MOON AND SUN AND TRIPLE FLAME;8FLAME;7;1TERMINAL MARK-1;2MARK-2",
    "11AB0:0CANADIAN SYLLABICS NATTILIK HI;3HII;3HO;3HOO;3HA;3HAA;3SHRI;3SHRII;3SHRO;3SHROO;3SHRA",
    "3SHRAA;2SPE;2SPI;2SPO;2SPA;0PAU CIN HAU LETTER PA;4KA;4LA;4MA;4DA;4ZA;4VA;4NGA;4HA;4GA;4KHA;4SA",
    "4BA;4CA;4TA;4THA;4NA;4PHA;4RA;4FA;4CHA;4A;4E;4I;4O;4U;4UA;4IA;4FINAL P;5K;5T;5M;5N;5L;5W;5NG;5Y",
    "3RISING TONE LONG;5;3SANDHI GLOTTAL STOP;3RISING TONE LONG FINAL;5FINAL",
    "3SANDHI GLOTTAL STOP FINAL;4TONE LONG;5;5LONG FINAL;5FINAL;3MID-LEVEL TONE;3GLOTTAL STOP VARIANT",
    "3MID-LEVEL TONE LONG FINAL;5FINAL;3LOW-FALLING TONE LONG;5;3GLOTTAL STOP",
    "3LOW-FALLING TONE LONG FINAL;5FINAL;3GLOTTAL STOP FINAL;11C00:0BHAIKSUKI LETTER A;2AA;2I;2II;2U",
    "2UU;2VOCALIC R;3RR;3L;11C0A:2E;2AI;2O;2AU;2KA;2KHA;2GA;2GHA;2NGA;2CA;2CHA;2JA;2JHA;2NYA;2TTA",
    "2TTHA;2DDA;2DDHA;2NNA;2TA;2THA;2DA;2DHA;2NA;2PA;2PHA;2BA;2BHA;2MA;2YA;2RA;2LA;2VA;2SHA;2SSA;2SA",
    "2HA;1VOWEL SIGN AA;3I;3II;3U;3UU;3VOCALIC R;4RR;4L;11C38:3E;3AI;3O;3AU;1SIGN CANDRABINDU",
    "2ANUSVARA;2VISARGA;2VIRAMA;2AVAGRAHA;1DANDA;1DOUBLE DANDA;1WORD SEPARATOR;1GAP FILLER-1",
    "2FILLER-2;11C50:1DIGIT ZERO;2ONE;2TWO;2THREE;2FOUR;2FIVE;2SIX;2SEVEN;2EIGHT;2NINE;1NUMBER ONE",
    "2TWO;2THREE;2FOUR;2FIVE;2SIX;2SEVEN;2EIGHT;2NINE;2TEN;2TWENTY;2THIRTY;2FORTY;2FIFTY;2SIXTY",
    "2SEVENTY;2EIGHTY;2NINETY;1HUNDREDS UNIT MARK;11C70:0MARCHEN HEAD MARK;1MARK SHAD;1LETTER KA;2KHA",
    "2GA;2NGA;2CA;2CHA;2JA;2NYA;2TA;2THA;2DA;2NA;2PA;2PHA;2BA;2MA;2TSA;2TSHA;2DZA;2WA;2ZHA;2ZA;2-A",
    "2YA;2RA;2LA;2SHA;2SA;2HA;2A;11C92:1SUBJOINED LETTER KA;3KHA;3GA;3NGA;3CA;3CHA;3JA;3NYA;3TA;3THA",
    "3DA;3NA;3PA;3PHA;3BA;3MA;3TSA;3TSHA;3DZA;3WA;3ZHA;3ZA;11CA9:3YA;3RA;3LA;3SHA;3SA;3HA;3A",
    "1VOWEL SIGN AA;3I;3U;3E;3O;1SIGN ANUSVARA;2CANDRABINDU;11D00:0MASARAM GONDI LETTER A;3AA;3I;3II",
    "3U;3UU;3E;11D08:3AI;3O;11D0B:3AU;3KA;3KHA;3GA;3GHA;3NGA;3CA;3CHA;3JA;3JHA;3NYA;3TTA;3TTHA;3DDA",
    "3DDHA;3NNA;3TA;3THA;3DA;3DHA;3NA;3PA;3PHA;3BA;3BHA;3MA;3YA;3RA;3LA;3VA;3SHA;3SSA;3SA;3HA;3LLA",
    "3KSSA;3JNYA;3TRA;2VOWEL SIGN AA;4I;4II;4U;4UU;4VOCALIC R;11D3A:4E;11D3C:4AI;4O;11D3F:4AU",
    "2SIGN ANUSVARA;3VISARGA;3NUKTA;3CANDRA;3HALANTA;2VIRAMA;2REPHA;2RA-KARA;11D50:2DIGIT ZERO;3ONE",
    "3TWO;3THREE;3FOUR;3FIVE;3SIX;3SEVEN;3EIGHT;3NINE;11D60:0GUNJALA GONDI LETTER A;3AA;3I;3II;3U;3UU",
    "11D67:3EE;3AI;11D6A:3OO;3AU;3YA;3VA;3BA;3BHA;3MA;3KA;3KHA;3TA;3THA;3LA;3GA;3GHA;3DA;3DHA;3NA;3CA",
    "3CHA;3TTA;3TTHA;3LLA;3JA;3JHA;3DDA;3DDHA;3NGA;3PA;3PHA;3HA;3RA;3SA;2VOWEL SIGN AA;4I;4II;4U;4UU",
    "11D90:4EE;4AI;11D93:4OO;4AU;2SIGN ANUSVARA;3VISARGA;2VIRAMA;2OM;11DA0:2DIGIT ZERO;3ONE;3TWO",
    "3THREE;3FOUR;3FIVE;3SIX;3SEVEN;3EIGHT;3NINE;11EE0:0MAKASAR LETTER KA;2GA;2NGA;2PA;2BA;2MA;2TA",
    "2DA;2NA;2CA;2JA;2NYA;2YA;2RA;2LA;2VA;2SA;2A;1ANGKA;1VOWEL SIGN I;3U;3E;3O;1PASSIMBANG",
    "1END OF SECTION;11FB0:0LISU LETTER YHA;11FC0:0TAMIL FRACTION ONE THREE-HUNDRED-AND-TWENTIETH",
    "3ONE-HUNDRED-AND-SIXTIETH;3EIGHTIETH;3SIXTY-FOURTH;3FORTIETH;3THIRTY-SECOND;2THREE EIGHTIETHS",
    "3SIXTY-FOURTHS;2ONE TWENTIETH;3SIXTEENTH-1;3SIXTEENTH-2;3TENTH;3EIGHTH;2THREE TWENTIETHS",
    "3SIXTEENTHS;2ONE FIFTH;3QUARTER;3HALF-1;3HALF-2;2THREE QUARTERS;2DOWNSCALING FACTOR KIIZH",
    "1SIGN NEL;2CEVITU;2AAZHAAKKU;2UZHAKKU;2MUUVUZHAKKU;2KURUNI;2PATHAKKU;2MUKKURUNI;2KAACU;2PANAM",
    "2PON;2VARAAKAN;2PAARAM;2KUZHI;2VELI;1WET CULTIVATION SIGN;1DRY CULTIVATION SIGN;1LAND SIGN",
    "1SALT PAN SIGN;1TRADITIONAL CREDIT SIGN;2NUMBER SIGN;1CURRENT SIGN;1AND ODD SIGN;1SPENT SIGN",
    "1TOTAL SIGN;1IN POSSESSION SIGN;1STARTING FROM SIGN;1SIGN MUTHALIYA;2VAKAIYARAA",
    "11FFF:1PUNCTUATION END OF TEXT"]

def ancientNames : List String :=
  firstAncientNames ++ secondAncientNames

end ModuleDocs.Text.CharacterName
