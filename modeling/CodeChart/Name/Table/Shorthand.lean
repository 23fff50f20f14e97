import CodeChart.Name.Run

/-!
# Names by run: Bamum, Miao, Tangut components, kana extensions and Duployan

U+16800 to U+1CBFF.
-/

namespace CodeChart.Name.Table

/-- Runs for Bamum, Miao, Tangut components, kana extensions and Duployan,
by ascending first code. -/
def shorthand : Array Run := #[
  ⟨0x16800, "BAMUM LETTER PHASE-A ", ["NGKUE MFON,GBIEE FON,PON MFON PIPAEMGBIEE,",
    "PON MFON PIPAEMBA,NAA MFON,SHUENSHUET,TITA MFON,NZA MFON,SHINDA PA NJI,",
    "PON PA NJI PIPAEMGBIEE"]⟩,
  ⟨0x1680A, "BAMUM LETTER PHASE-A ", ["PON PA NJI PIPAEMBA,MAEMBGBIEE,TU MAEMBA,NGANGU,",
    "MAEMVEUX,MANSUAE,MVEUAENGAM,SEUNYAM,NTOQPEN,KEUKEUTNDA,NKINDI,SUU,NGKUENZEUM,LAPAQ,",
    "LET KUT,NTAP MFAA,MAEKEUP,PASHAE,GHEUAERAE,PAMSHAE,MON NGGEUAET,NZUN MEUT,U YUQ NAE,",
    "GHEUAEGHEUAE,NTAP NTAA,SISA,MGBASA,MEUNJOMNDEUQ,MOOMPUQ,KAFA,PA LEERAEWA"]⟩,
  ⟨0x16829, "BAMUM LETTER PHASE-A ", ["NDA LEERAEWA,PET,MAEMKPEN,NIKA,PUP,TUAEP,LUAEP,SONJAM,",
    "TEUTEUWEN,MAENYI,KET,NDAANGGEUAET,KUOQ,MOOMEUT,SHUM,LOMMAE,FIRI,ROM,KPOQ,SOQ,MAP PIEET,",
    "SHIRAE,NTAP,SHOQ NSHUT YUM,NYIT MONGKEUAEQ,PAARAE,NKAARAE,UNKNOWN,NGGEN,MAESI,NJAM,",
    "MBANYI,NYET,TEUAEN,SOT,PAAM,NSHIEE,MAEM,NYI,KAQ,NSHA,VEE,LU,NEN,NAQ,MBAQ"]⟩,
  ⟨0x16857, "BAMUM LETTER PHASE-B ", ["NSHUET,TU MAEMGBIEE,SIEE,SET TU,LOM NTEUM,MBA MAELEE,",
    "KIEEM,YEURAE,MBAARAE,KAM,PEESHI,YAFU LEERAEWA,LAM NSHUT NYAM,NTIEE SHEUOQ,NDU NJAA,",
    "GHEUGHEUAEM,PIT"]⟩,
  ⟨0x16868, "BAMUM LETTER PHASE-B ", ["TU NSIEE,SHET NJAQ,SHEUAEQTU,MFON TEUAEQ,MBIT MBAAKET,",
    "NYI NTEUM,KEUPUQ,GHEUGHEN,KEUYEUX,LAANAE,PARUM,VEUM,NGKINDI MVOP,NGGEU MBU,WUAET,",
    "SAKEUAE,TAAM,MEUQ,NGGUOQ,NGGUOQ LARGE,MFIYAQ,SUE,MBEURI,MONTIEEN,NYAEMAE,PUNGAAM,",
    "MEUT NGGEET,FEUX,MBUOQ,FEE,KEUAEM,MA NJEUAENA,MA NJUQA,LET,NGGAAM,NSEN,MA,KIQ,NGOM"]⟩,
  ⟨0x1688F, "BAMUM LETTER PHASE-C ", ["NGKUE MAEMBA,NZA,YUM,WANGKUOQ,NGGEN,NDEUAEREE,NGKAQ,",
    "GHARAE,MBEEKEET,GBAYI,NYIR MKPARAQ MEUN,NTU MBIT,MBEUM,PIRIEEN,NDOMBU,",
    "MBAA CABBAGE-TREE,KEUSHEUAEP,GHAP,KEUKAQ,YU MUOMAE,NZEUM,MBUE,NSEUAEN,MBIT,YEUQ,KPARAQ,",
    "KAA,SEUX,NDIDA,TAASHAE,NJUEQ,TITA YUE,SUAET,NGGUAEN NYAM,VEUX,NANSANAQ,MA KEUAERI,NTAA"]⟩,
  ⟨0x168B5, "BAMUM LETTER PHASE-C ", ["NGGUON,LAP,MBIRIEEN,MGBASAQ,NTEUNGBA,TEUTEUX,NGGUM,FUE,",
    "NDEUT,NSA,NSHAQ,BUNG,VEUAEPEN,MBERAE,RU,NJAEM,LAM,TITUAEP,NSUOT NGOM,NJEEEE,KET,NGGU,",
    "MAESI,MBUAEM,LU,KUT,NJAM,NGOM,WUP,NGGUEET,NSOM,NTEN,KUOP NKAARAE,NSUN,NDAM,MA NSIEE,",
    "YAA,NDAP,SHUEQ,SETFON,MBI,MAEMBA,MBANYI,KEUSEUX,MBEUX,KEUM,MBAA PICKET,YUWOQ"]⟩,
  ⟨0x168E5, "BAMUM LETTER PHASE-", ["C NJEUX,C MIEE,C MUAE,C SHIQ,C KEN LAW,C KEN FATIGUE,",
    "C NGAQ,C NAQ,C LIQ,C PIN,C PEN,C TET,D MBUO,D WAP,D NJI,D MFON,D NJIEE,D LIEE,D NJEUT,",
    "D NSHEE,D NGGAAMAE,D NYAM"]⟩,
  ⟨0x168FB, "BAMUM LETTER PHASE-D ", ["WUAEN,NGKUN,SHEE,NGKAP,KEUAETMEUN,TEUT,SHEUAE,NJAP,SUE,",
    "KET,YAEMMAE,KUOM,SAP,MFEUT,NDEUX,MALEERI,MEUT,SEUAEQ,YEN,NJEUAEM,KEUOT MBUAE,NGKEURI,",
    "TU,GHAA,NGKYEE,FEUFEUAET,NDEE,MGBOFUM,LEUAEP,NDON,MONI,MGBEUN,PUUT,MGBIEE,MFO,LUM,",
    "NSIEEP,MBAA,KWAET,NYET,TEUAEN,SOT,YUWOQ,KEUM,RAEM,TEEEE,NGKEUAEQ,MFEUAE,NSIEET"]⟩,
  ⟨0x1692C, "BAMUM LETTER PHASE-D ", ["KEUP,PIP,PEUTAE,NYUE,LET,NGGAAM,MFIEE,NGGWAEN,YUOM,PAP,",
    "YUOP,NDAM,NTEUM,SUAE,KUN,NGGEUX,NGKIEE,TUOT,MEUN,KUQ,NSUM,TEUN,MAENJET,NGGAP,LEUM,",
    "NGGUOM,NSHUT,NJUEQ,GHEUAE,KU,REN OLD,TAE,TOQ,NYI,RII,LEEEE,MEEEE,M,SUU,MU,SHII,SHEUX,",
    "KYEE,NU,SHU,NTEE,PEE,NI,SHOQ,PUQ,MVOP,LOQ,REN MUCH,TI,NTUU,MBAA SEVEN,SAQ,FAA"]⟩,
  ⟨0x16966, "BAMUM LETTER PHASE-E ", ["NDAP,TOON,MBEUM,LAP,VOM,LOON,PAA,SOM,RAQ,NSHUOP,NDUN,",
    "PUAE,TAM,NGKA,KPEUX,WUO,SEE,NGGEUAET,PAAM,TOO,KUOP,LOM,NSHIEE,NGOP,MAEM,NGKEUX,NGOQ,",
    "NSHUE,RIMGBA,NJEUX,PEEM,SAA,NGGURAE,MGBA,GHEUX,NGKEUAEM,NJAEMLI,MAP,LOOT,NGGEEEE,NDIQ,",
    "TAEN NTEUM,SET,PUM,NDAA SOFTNESS,NGGUAESHAE NYAM"]⟩,
  ⟨0x16994, "BAMUM LETTER PHASE-E ", ["YIEE,GHEUN,TUAE,YEUAE,PO,TUMAE,KEUAE,SUAEN,TEUAEQ,",
    "VEUAE,WEUX,LAAM,PU,TAAQ,GHAAMAE,NGEUREUT,SHEUAEQ,MGBEN,MBEE,NZAQ,NKOM,GBET,TUM,KUET,",
    "YAP,NYI CLEAVER,YIT,MFEUQ,NDIAQ,PIEEQ,YUEQ,LEUAEM,FUE,GBEUX,NGKUP,KET,MAE,NGKAAMI,GHET,",
    "FA,NTUM,PEUT,YEUM,NGGEUAE,NYI BETWEEN,NZUQ,POON,MIEE,FUET,NAE,MUAE,GHEUAE,FU I"]⟩,
  ⟨0x169C9, "BAMUM LETTER PHASE-E ", ["MVI,PUAQ,NGKUM,KUT,PIET,NTAP,YEUAET,NGGUP,PA PEOPLE,",
    "FU CALL,FOM,NJEE,A,TOQ,O,I,LAQ,PA PLURAL,TAA,TAQ,NDAA MY HOUSE,SHIQ,YEUX,NGUAE,YUAEN,",
    "YOQ SWIMMING,YOQ COVER,YUQ,YUN,KEUX,PEUX,NJEE EPOCH,PUE,WUE,FEE,VEE,LU,MI,REUX,RAE,",
    "NGUAET,NGA,SHO,SHOQ,FU REMEDY,NA,PI,LOQ,KO,MEN,MA,MAQ,TEU,KI,MON,TEN,FAQ,GHOM"]⟩,
  ⟨0x16A03, "BAMUM LETTER PHASE-F ", ["KA,U,KU,EE,REE,TAE,NYI,LA,RII,RIEE,MEEEE,TAA,NDAA,",
    "NJAEM,M,SUU,SHII,SI,SEUX,KYEE,KET,NUAE,NU,NJUAE,YOQ,SHU,YA,NSHA,PEUX,NTEE,WUE,PEE,RU,",
    "NI,REUX,KEN,NGKWAEN,NGGA,SHO,PUAE,FOM,WA,LI,LOQ,KO,MBEN,REN,MA,MO,MBAA,TET,KPA,SAMBA,",
    "VUEQ"]⟩,
  ⟨0x16A40, "MRO LETTER ", ["TA,NGI,YO,MIM,BA,DA,A,PHI,KHAI,HAO,DAI,CHU,KEAAE,OL,MAEM,NIN,PA,",
    "OO,O,RO,SHI,THEA,EA,WA,E,KO,LAN,LA,HAI,RI,TEK"]⟩,
  ⟨0x16A60, "MRO DIGIT ", ["ZERO,ONE,TWO,THREE,FOUR,FIVE,SIX,SEVEN,EIGHT,NINE"]⟩,
  ⟨0x16A6E, "MRO ", ["DANDA,DOUBLE DANDA"]⟩,
  ⟨0x16A70, "TANGSA LETTER ", ["OZ,OC,OQ,OX,AZ,AC,AQ,AX,VZ,VC,VQ,VX,EZ,EC,EQ,EX,IZ,IC,IQ,IX,",
    "UZ,UC,UQ,UX,AWZ,AWC,AWQ,AWX,UIZ,UIC,UIQ,UIX,FINAL NG,LONG UEX,SHORT UEZ,SHORT AWX,UEC,",
    "UEZ,UEQ,UEX,UIUZ,UIUC,UIUQ,UIUX,MZ,MC,MQ,MX,KA,KHA,GA,NGA,SA,YA,WA,PA,NYA,PHA,BA,MA,NA,",
    "HA,LA,HTA,TA,DA,RA,NHA,SHA,CA,TSA,GHA,HTTA,THA,XA,FA,DHA,CHA,ZA"]⟩,
  ⟨0x16AC0, "TANGSA DIGIT ", ["ZERO,ONE,TWO,THREE,FOUR,FIVE,SIX,SEVEN,EIGHT,NINE"]⟩,
  ⟨0x16AD0, "BASSA VAH LETTER ", ["ENNI,KA,SE,FA,MBE,YIE,GAH,DHII,KPAH,JO,HWAH,WA,ZO,GBU,DO,",
    "CE,UWU,TO,BA,VU,YEIN,PA,WADDA,A,O,OO,U,EE,E,I"]⟩,
  ⟨0x16AF0, "BASSA VAH COMBINING ", ["HIGH TONE,LOW TONE,MID TONE,LOW-MID TONE,HIGH-LOW TONE"]⟩,
  ⟨0x16AF5, "BASSA VAH FULL STOP", [""]⟩,
  ⟨0x16B00, "PAHAWH HMONG VOWEL ", ["KEEB,KEEV,KIB,KIV,KAUB,KAUV,KUB,KUV,KEB,KEV,KAIB,KAIV,",
    "KOOB,KOOV,KAWB,KAWV,KUAB,KUAV,KOB,KOV,KIAB,KIAV,KAB,KAV,KWB,KWV,KAAB,KAAV"]⟩,
  ⟨0x16B1C, "PAHAWH HMONG CONSONANT ", ["VAU,NTSAU,LAU,HAU,NLAU,RAU,NKAU,QHAU,YAU,HLAU,MAU,",
    "CHAU,NCHAU,HNAU,PLHAU,NTHAU,NAU,AU,XAU,CAU"]⟩,
  ⟨0x16B30, "PAHAWH HMONG MARK CIM ", ["TUB,SO,KES,KHAV,SUAM,HOM,TAUM"]⟩,
  ⟨0x16B37, "PAHAWH HMONG SIGN ", ["VOS THOM,VOS TSHAB CEEB,CIM CHEEM,VOS THIAB,VOS FEEM,",
    "XYEEM NTXIV,XYEEM RHO,XYEEM TOV,XYEEM FAIB,VOS SEEV,MEEJ SUAB,VOS NRUA,IB YAM,XAUS,",
    "CIM TSOV ROG"]⟩,
  ⟨0x16B50, "PAHAWH HMONG DIGIT ", ["ZERO,ONE,TWO,THREE,FOUR,FIVE,SIX,SEVEN,EIGHT,NINE"]⟩,
  ⟨0x16B5B, "PAHAWH HMONG NUMBER ", ["TENS,HUNDREDS,TEN THOUSANDS,MILLIONS,HUNDRED MILLIONS,",
    "TEN BILLIONS,TRILLIONS"]⟩,
  ⟨0x16B63, "PAHAWH HMONG SIGN ", ["VOS LUB,XYOO,HLI,THIRD-STAGE HLI,ZWJ THAJ,HNUB,NQIG,XIAB,",
    "NTUJ,AV,TXHEEJ CEEV,MEEJ TSEEB,TAU,LOS,MUS,CIM HAIS LUS NTOG NTOG,CIM CUAM TSHOOJ,",
    "CIM TXWV,CIM TXWV CHWV,CIM PUB DAWB,CIM NRES TOS"]⟩,
  ⟨0x16B7D, "PAHAWH HMONG CLAN SIGN ", ["TSHEEJ,YEEG,LIS,LAUJ,XYOOJ,KOO,HAWJ,MUAS,THOJ,TSAB,",
    "PHAB,KHAB,HAM,VAJ,FAJ,YAJ,TSWB,KWM,VWJ"]⟩,
  ⟨0x16D40, "KIRAT RAI SIGN ", ["ANUSVARA,TONPI,VISARGA"]⟩,
  ⟨0x16D43, "KIRAT RAI LETTER ", ["A,KA,KHA,GA,GHA,NGA,CA,CHA,JA,JHA,NYA,TTA,TTHA,DDA,DDHA,TA,",
    "THA,DA,DHA,NA,PA,PHA,BA,BHA,MA,YA,RA,LA,VA,SA,SHA,HA"]⟩,
  ⟨0x16D63, "KIRAT RAI VOWEL SIGN ", ["AA,I,U,UE,E,AI,O,AU"]⟩,
  ⟨0x16D6B, "KIRAT RAI ", ["SIGN VIRAMA,SIGN SAAT,SIGN YUPI,DANDA,DOUBLE DANDA"]⟩,
  ⟨0x16D70, "KIRAT RAI DIGIT ", ["ZERO,ONE,TWO,THREE,FOUR,FIVE,SIX,SEVEN,EIGHT,NINE"]⟩,
  ⟨0x16E40, "MEDEFAIDRIN CAPITAL LETTER ", ["M,S,V,W,ATIU,Z,KP,P,T,G,F,I,K,A,J,E,B,C,U,YU,L,Q,",
    "HP,NY,X,D,OE,N,R,O,AI,Y"]⟩,
  ⟨0x16E60, "MEDEFAIDRIN SMALL LETTER ", ["M,S,V,W,ATIU,Z,KP,P,T,G,F,I,K,A,J,E,B,C,U,YU,L,Q,",
    "HP,NY,X,D,OE,N,R,O,AI,Y"]⟩,
  ⟨0x16E80, "MEDEFAIDRIN DIGIT ", ["ZERO,ONE,TWO,THREE,FOUR,FIVE,SIX,SEVEN,EIGHT,NINE"]⟩,
  ⟨0x16E8A, "MEDEFAIDRIN NUMBER ", ["TEN,ELEVEN,TWELVE,THIRTEEN,FOURTEEN,FIFTEEN,SIXTEEN,",
    "SEVENTEEN,EIGHTEEN,NINETEEN"]⟩,
  ⟨0x16E94, "MEDEFAIDRIN ", ["DIGIT ONE ALTERNATE FORM,DIGIT TWO ALTERNATE FORM,",
    "DIGIT THREE ALTERNATE FORM,COMMA,FULL STOP,SYMBOL AIVA,EXCLAMATION OH"]⟩,
  ⟨0x16F00, "MIAO LETTER ", ["PA,BA,YI PA,PLA,MA,MHA,ARCHAIC MA,FA,VA,VFA,TA,DA,YI TTA,YI TA,TTA"]⟩,
  ⟨0x16F0F, "MIAO LETTER ", ["DDA,NA,NHA,YI NNA,ARCHAIC NA,NNA,NNHA,LA,LYA,LHA,LHYA,TLHA,DLHA,",
    "TLHYA,DLHYA,KA,GA,YI KA,QA,QGA,NGA,NGHA,ARCHAIC NGA,HA,XA,GHA,GHHA,TSSA,DZZA,NYA,NYHA,",
    "TSHA,DZHA,YI TSHA,YI DZHA,REFORMED TSHA,SHA,SSA,ZHA,ZSHA,TSA,DZA,YI TSA,SA,ZA,ZSA,ZZA,",
    "ZZSA,ARCHAIC ZZA,ZZYA,ZZSYA,WA,AH,HHA,BRI,SYI,DZYI,TE,TSE,RTE"]⟩,
  ⟨0x16F4F, "MIAO ", ["SIGN CONSONANT MODIFIER BAR,LETTER NASALIZATION,SIGN ASPIRATION,",
    "SIGN REFORMED VOICING,SIGN REFORMED ASPIRATION"]⟩,
  ⟨0x16F54, "MIAO VOWEL SIGN ", ["A,AA,AHH,AN,ANG,O,OO,WO,W,E,EN,ENG,OEY,I,IA,IAN,IANG,IO,IE,",
    "II,IU,ING,U,UA,UAN,UANG,UU,UEI,UNG,Y,YI,AE,AEE,ERR,ROUNDED ERR,ER,ROUNDED ER,AI,EI,AU,",
    "OU,N,NG,UOG,YUI,OG,OER,VW,IG,EA,IONG,UI"]⟩,
  ⟨0x16F8F, "MIAO TONE ", ["RIGHT,TOP RIGHT,ABOVE,BELOW"]⟩,
  ⟨0x16F93, "MIAO LETTER TONE-", ["2,3,4,5,6,7,8"]⟩,
  ⟨0x16F9A, "MIAO LETTER REFORMED TONE-", ["1,2,4,5,6,8"]⟩,
  ⟨0x16FE0, "", ["TANGUT ITERATION MARK,NUSHU ITERATION MARK,OLD CHINESE HOOK MARK,",
    "OLD CHINESE ITERATION MARK,KHITAN SMALL SCRIPT FILLER"]⟩,
  ⟨0x16FF0, "VIETNAMESE ALTERNATE READING MARK ", ["CA,NHAY"]⟩,
  ⟨0x18800, "TANGUT COMPONENT-", ["001,002,003,004,005,006,007,008,009,010,011,012,013,014,",
    "015,016,017,018"]⟩,
  ⟨0x18812, "TANGUT COMPONENT-", ["019,020,021,022,023,024,025,026,027,028,029,030,031,032,",
    "033,034,035,036,037,038,039,040,041,042,043,044,045,046,047,048,049,050,051,052,053,",
    "054,055,056,057,058,059,060,061,062,063,064,065,066,067,068,069,070,071,072,073,074,",
    "075,076,077,078,079,080,081,082,083,084,085,086,087,088,089,090,091,092,093"]⟩,
  ⟨0x1885D, "TANGUT COMPONENT-", ["094,095,096,097,098,099,100,101,102,103,104,105,106,107,",
    "108,109,110,111,112,113,114,115,116,117,118,119,120,121,122,123,124,125,126,127,128,",
    "129,130,131,132,133,134,135,136,137,138,139,140,141,142,143,144,145,146,147,148,149,",
    "150,151,152,153,154,155,156,157,158,159,160,161,162,163,164,165,166,167,168"]⟩,
  ⟨0x188A8, "TANGUT COMPONENT-", ["169,170,171,172,173,174,175,176,177,178,179,180,181,182,",
    "183,184,185,186,187,188,189,190,191,192,193,194,195,196,197,198,199,200,201,202,203,",
    "204,205,206,207,208,209,210,211,212,213,214,215,216,217,218,219,220,221,222,223,224,",
    "225,226,227,228,229,230,231,232,233,234,235,236,237,238,239,240,241,242,243"]⟩,
  ⟨0x188F3, "TANGUT COMPONENT-", ["244,245,246,247,248,249,250,251,252,253,254,255,256,257,",
    "258,259,260,261,262,263,264,265,266,267,268,269,270,271,272,273,274,275,276,277,278,",
    "279,280,281,282,283,284,285,286,287,288,289,290,291,292,293,294,295,296,297,298,299,",
    "300,301,302,303,304,305,306,307,308,309,310,311,312,313,314,315,316,317,318"]⟩,
  ⟨0x1893E, "TANGUT COMPONENT-", ["319,320,321,322,323,324,325,326,327,328,329,330,331,332,",
    "333,334,335,336,337,338,339,340,341,342,343,344,345,346,347,348,349,350,351,352,353,",
    "354,355,356,357,358,359,360,361,362,363,364,365,366,367,368,369,370,371,372,373,374,",
    "375,376,377,378,379,380,381,382,383,384,385,386,387,388,389,390,391,392,393"]⟩,
  ⟨0x18989, "TANGUT COMPONENT-", ["394,395,396,397,398,399,400,401,402,403,404,405,406,407,",
    "408,409,410,411,412,413,414,415,416,417,418,419,420,421,422,423,424,425,426,427,428,",
    "429,430,431,432,433,434,435,436,437,438,439,440,441,442,443,444,445,446,447,448,449,",
    "450,451,452,453,454,455,456,457,458,459,460,461,462,463,464,465,466,467,468"]⟩,
  ⟨0x189D4, "TANGUT COMPONENT-", ["469,470,471,472,473,474,475,476,477,478,479,480,481,482,",
    "483,484,485,486,487,488,489,490,491,492,493,494,495,496,497,498,499,500,501,502,503,",
    "504,505,506,507,508,509,510,511,512,513,514,515,516,517,518,519,520,521,522,523,524,",
    "525,526,527,528,529,530,531,532,533,534,535,536,537,538,539,540,541,542,543"]⟩,
  ⟨0x18A1F, "TANGUT COMPONENT-", ["544,545,546,547,548,549,550,551,552,553,554,555,556,557,",
    "558,559,560,561,562,563,564,565,566,567,568,569,570,571,572,573,574,575,576,577,578,",
    "579,580,581,582,583,584,585,586,587,588,589,590,591,592,593,594,595,596,597,598,599,",
    "600,601,602,603,604,605,606,607,608,609,610,611,612,613,614,615,616,617,618"]⟩,
  ⟨0x18A6A, "TANGUT COMPONENT-", ["619,620,621,622,623,624,625,626,627,628,629,630,631,632,",
    "633,634,635,636,637,638,639,640,641,642,643,644,645,646,647,648,649,650,651,652,653,",
    "654,655,656,657,658,659,660,661,662,663,664,665,666,667,668,669,670,671,672,673,674,",
    "675,676,677,678,679,680,681,682,683,684,685,686,687,688,689,690,691,692,693"]⟩,
  ⟨0x18AB5, "TANGUT COMPONENT-", ["694,695,696,697,698,699,700,701,702,703,704,705,706,707,",
    "708,709,710,711,712,713,714,715,716,717,718,719,720,721,722,723,724,725,726,727,728,",
    "729,730,731,732,733,734,735,736,737,738,739,740,741,742,743,744,745,746,747,748,749,",
    "750,751,752,753,754,755,756,757,758,759,760,761,762,763,764,765,766,767,768"]⟩,
  ⟨0x1AFF0, "KATAKANA LETTER MINNAN TONE-", ["2,3,4,5"]⟩,
  ⟨0x1AFF5, "KATAKANA LETTER MINNAN TONE-", ["7,8"]⟩,
  ⟨0x1AFF7, "KATAKANA LETTER MINNAN NASALIZED TONE-", ["1,2,3,4,5"]⟩,
  ⟨0x1AFFD, "KATAKANA LETTER MINNAN NASALIZED TONE-", ["7,8"]⟩,
  ⟨0x1B000, "", ["KATAKANA LETTER ARCHAIC E,HIRAGANA LETTER ARCHAIC YE"]⟩,
  ⟨0x1B002, "HENTAIGANA LETTER ", ["A-1,A-2,A-3,A-WO,I-1,I-2,I-3,I-4,U-1,U-2,U-3,U-4,U-5,E-2,",
    "E-3,E-4,E-5,E-6,O-1,O-2,O-3,KA-1,KA-2,KA-3,KA-4,KA-5,KA-6,KA-7,KA-8,KA-9,KA-10,KA-11,",
    "KA-KE,KI-1,KI-2,KI-3,KI-4,KI-5,KI-6,KI-7,KI-8,KU-1,KU-2,KU-3,KU-4,KU-5,KU-6,KU-7,KE-1,",
    "KE-2"]⟩,
  ⟨0x1B034, "HENTAIGANA LETTER ", ["KE-3,KE-4,KE-5,KE-6,KO-1,KO-2,KO-3,KO-KI,SA-1,SA-2,SA-3,",
    "SA-4,SA-5,SA-6,SA-7,SA-8,SI-1,SI-2,SI-3,SI-4,SI-5,SI-6,SU-1,SU-2,SU-3,SU-4,SU-5,SU-6,",
    "SU-7,SU-8,SE-1,SE-2,SE-3,SE-4,SE-5,SO-1,SO-2,SO-3,SO-4,SO-5,SO-6,SO-7,TA-1,TA-2,TA-3,",
    "TA-4,TI-1,TI-2,TI-3,TI-4,TI-5,TI-6,TI-7,TU-1,TU-2,TU-3,TU-4,TU-TO,TE-1"]⟩,
  ⟨0x1B06F, "HENTAIGANA LETTER ", ["TE-2,TE-3,TE-4,TE-5,TE-6,TE-7,TE-8,TE-9,TO-1,TO-2,TO-3,",
    "TO-4,TO-5,TO-6,TO-RA,NA-1,NA-2,NA-3,NA-4,NA-5,NA-6,NA-7,NA-8,NA-9,NI-1,NI-2,NI-3,NI-4,",
    "NI-5,NI-6,NI-7,NI-TE,NU-1,NU-2,NU-3,NE-1,NE-2,NE-3,NE-4,NE-5,NE-6,NE-KO,NO-1,NO-2,NO-3,",
    "NO-4,NO-5,HA-1,HA-2,HA-3,HA-4,HA-5,HA-6,HA-7,HA-8,HA-9,HA-10,HA-11,HI-1"]⟩,
  ⟨0x1B0AA, "HENTAIGANA LETTER ", ["HI-2,HI-3,HI-4,HI-5,HI-6,HI-7,HU-1,HU-2,HU-3,HE-1,HE-2,",
    "HE-3,HE-4,HE-5,HE-6,HE-7,HO-1,HO-2,HO-3,HO-4,HO-5,HO-6,HO-7,HO-8,MA-1,MA-2,MA-3,MA-4,",
    "MA-5,MA-6,MA-7,MI-1,MI-2,MI-3,MI-4,MI-5,MI-6,MI-7,MU-1,MU-2,MU-3,MU-4,ME-1,ME-2,ME-MA,",
    "MO-1,MO-2,MO-3,MO-4,MO-5,MO-6,YA-1,YA-2,YA-3,YA-4,YA-5,YA-YO,YU-1,YU-2"]⟩,
  ⟨0x1B0E5, "HENTAIGANA LETTER ", ["YU-3,YU-4,YO-1,YO-2,YO-3,YO-4,YO-5,YO-6,RA-1,RA-2,RA-3,",
    "RA-4,RI-1,RI-2,RI-3,RI-4,RI-5,RI-6,RI-7,RU-1,RU-2,RU-3,RU-4,RU-5,RU-6,RE-1,RE-2,RE-3,",
    "RE-4,RO-1,RO-2,RO-3,RO-4,RO-5,RO-6,WA-1,WA-2,WA-3,WA-4,WA-5,WI-1,WI-2,WI-3,WI-4,WI-5,",
    "WE-1,WE-2,WE-3,WE-4,WO-1,WO-2,WO-3,WO-4,WO-5,WO-6,WO-7,N-MU-MO-1,N-MU-MO-2"]⟩,
  ⟨0x1B11F, "HIRAGANA LETTER ARCHAIC WU", [""]⟩,
  ⟨0x1B120, "KATAKANA LETTER ARCHAIC ", ["YI,YE,WU"]⟩,
  ⟨0x1B132, "HIRAGANA LETTER SMALL KO", [""]⟩,
  ⟨0x1B150, "HIRAGANA LETTER SMALL ", ["WI,WE,WO"]⟩,
  ⟨0x1B155, "KATAKANA LETTER SMALL KO", [""]⟩,
  ⟨0x1B164, "KATAKANA LETTER SMALL ", ["WI,WE,WO,N"]⟩,
  ⟨0x1BC00, "DUPLOYAN LETTER ", ["H,X,P,T,F,K,L,B,D,V,G,R,P N,D S,F N,K M,R S,TH,SLOAN DH,DH,",
    "KK,SLOAN J,HL,LH,RH,M,N,J,S,M N,N M,J M,S J,M WITH DOT,N WITH DOT,J WITH DOT,",
    "J WITH DOTS INSIDE AND ABOVE,S WITH DOT,S WITH DOT BELOW,M S,N S,J S,S S,M N S,N M S,",
    "J M S,S J S,J S WITH DOT,J N,J N S,S T,S T R"]⟩,
  ⟨0x1BC34, "DUPLOYAN LETTER ", ["S P,S P R,T S,T R S,W,WH,W R,S N,S M,K R S,G R S,S K,S K R,",
    "A,SLOAN OW,OA,O,AOU,I,E,IE,SHORT I,UI,EE,SLOAN EH,ROMANIAN I,SLOAN EE,LONG I,YE,U,EU,",
    "XW,U N,LONG U,ROMANIAN U,UH,SLOAN U,OOH,OW,OU,WA,WO,WI,WEI,WOW,NASAL U,NASAL O,NASAL I,",
    "NASAL A,PERNIN AN,PERNIN AM,SLOAN EN,SLOAN AN,SLOAN ON,VOCALIC M"]⟩,
  ⟨0x1BC70, "DUPLOYAN AFFIX ", ["LEFT HORIZONTAL SECANT,MID HORIZONTAL SECANT,",
    "RIGHT HORIZONTAL SECANT,LOW VERTICAL SECANT,MID VERTICAL SECANT,HIGH VERTICAL SECANT"]⟩,
  ⟨0x1BC76, "DUPLOYAN AFFIX ATTACHED ", ["SECANT,LEFT-TO-RIGHT SECANT,TANGENT,TAIL,E HOOK,",
    "I HOOK,TANGENT HOOK"]⟩,
  ⟨0x1BC80, "DUPLOYAN AFFIX HIGH ", ["ACUTE,TIGHT ACUTE,GRAVE,LONG GRAVE,DOT,CIRCLE,LINE,WAVE,",
    "VERTICAL"]⟩,
  ⟨0x1BC90, "DUPLOYAN AFFIX LOW ", ["ACUTE,TIGHT ACUTE,GRAVE,LONG GRAVE,DOT,CIRCLE,LINE,WAVE,",
    "VERTICAL,ARROW"]⟩,
  ⟨0x1BC9C, "DUPLOYAN ", ["SIGN O WITH CROSS,THICK LETTER SELECTOR,DOUBLE MARK,",
    "PUNCTUATION CHINOOK FULL STOP"]⟩,
  ⟨0x1BCA0, "SHORTHAND FORMAT ", ["LETTER OVERLAP,CONTINUING OVERLAP,DOWN STEP,UP STEP"]⟩]

end CodeChart.Name.Table
