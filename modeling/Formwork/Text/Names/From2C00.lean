/-
  Formwork.Text.Names.From2C00: names of characters from U+2C00 on
  (Unicode 14): further alphabets, and the scripts and signs of eastern Asia.
-/

import Formwork.Text.NameRun

namespace Formwork.Text

def namesFrom2C00 : List NameRun := [
  ⟨0x2C00, "GLAGOLITIC CAPITAL LETTER ", ["AZU,BUKY,VEDE,GLAGOLI,DOBRO,YESTU,ZHIVETE,DZELO,ZEMLJA,IZHE",
    "INITIAL IZHE,I,DJERVI,KAKO,LJUDIJE,MYSLITE,NASHI,ONU,POKOJI,RITSI,SLOVO,TVRIDO,UKU,FRITU,HERU,OTU,PE,SHTA",
    "TSI,CHRIVI,SHA,YERU,YERI,YATI,SPIDERY HA,YU,SMALL YUS,SMALL YUS WITH TAIL,YO,IOTATED SMALL YUS,BIG YUS",
    "IOTATED BIG YUS,FITA,IZHITSA,SHTAPIC,TROKUTASTI A,LATINATE MYSLITE,CAUDATE CHRIVI"]⟩,
  ⟨0x2C30, "GLAGOLITIC SMALL LETTER ", ["AZU,BUKY,VEDE,GLAGOLI,DOBRO,YESTU,ZHIVETE,DZELO,ZEMLJA,IZHE,INITIAL IZHE",
    "I,DJERVI,KAKO,LJUDIJE,MYSLITE,NASHI,ONU,POKOJI,RITSI,SLOVO,TVRIDO,UKU,FRITU,HERU,OTU,PE,SHTA,TSI,CHRIVI,SHA",
    "YERU,YERI,YATI,SPIDERY HA,YU,SMALL YUS,SMALL YUS WITH TAIL,YO,IOTATED SMALL YUS,BIG YUS,IOTATED BIG YUS,FITA",
    "IZHITSA,SHTAPIC,TROKUTASTI A,LATINATE MYSLITE,CAUDATE CHRIVI"]⟩,
  ⟨0x2C60, "LATIN * LETTER L WITH DOUBLE BAR", [""]⟩,
  ⟨0x2C62, "LATIN CAPITAL LETTER ", ["L WITH MIDDLE TILDE,P WITH STROKE,R WITH TAIL"]⟩,
  ⟨0x2C65, "LATIN SMALL LETTER ", ["A WITH STROKE,T WITH DIAGONAL STROKE"]⟩,
  ⟨0x2C67, "LATIN * LETTER ", ["H WITH DESCENDER,K WITH DESCENDER,Z WITH DESCENDER"]⟩,
  ⟨0x2C6D, "LATIN CAPITAL LETTER ", ["ALPHA,M WITH HOOK,TURNED A,TURNED ALPHA"]⟩,
  ⟨0x2C71, "LATIN ", ["SMALL LETTER V WITH RIGHT HOOK,CAPITAL LETTER W WITH HOOK,SMALL LETTER W WITH HOOK",
    "SMALL LETTER V WITH CURL,CAPITAL LETTER HALF H"]⟩,
  ⟨0x2C76, "LATIN SMALL LETTER ", ["HALF H,TAILLESS PHI,E WITH NOTCH,TURNED R WITH TAIL,O WITH LOW RING INSIDE"]⟩,
  ⟨0x2C7B, "", ["LATIN LETTER SMALL CAPITAL TURNED E,LATIN SUBSCRIPT SMALL LETTER J,MODIFIER LETTER CAPITAL V"]⟩,
  ⟨0x2C7E, "LATIN CAPITAL LETTER ", ["S WITH SWASH TAIL,Z WITH SWASH TAIL"]⟩,
  ⟨0x2C80, "COPTIC * LETTER ", ["ALFA,VIDA,GAMMA,DALDA,EIE,SOU,ZATA,HATE,THETHE,IAUDA,KAPA,LAULA,MI,NI,KSI,O,PI",
    "RO,SIMA,TAU,UA,FI,KHI,PSI,OOU,DIALECT-P ALEF,OLD COPTIC AIN,CRYPTOGRAMMIC EIE,DIALECT-P KAPA,DIALECT-P NI",
    "CRYPTOGRAMMIC NI,OLD COPTIC OOU,SAMPI,CROSSED SHEI,OLD COPTIC SHEI,OLD COPTIC ESH,AKHMIMIC KHEI",
    "DIALECT-P HORI,OLD COPTIC HORI,OLD COPTIC HA,L-SHAPED HA"]⟩,
  ⟨0x2CD2, "COPTIC * LETTER OLD COPTIC ", ["HEI,HAT,GANGIA,DJA,SHIMA"]⟩,
  ⟨0x2CDC, "COPTIC * LETTER OLD NUBIAN ", ["SHIMA,NGI,NYI,WAU"]⟩,
  ⟨0x2CE4, "COPTIC SYMBOL ", ["KAI,MI RO,PI RO,STAUROS,TAU RO,KHI RO,SHIMA SIMA"]⟩,
  ⟨0x2CEB, "COPTIC * LETTER CRYPTOGRAMMIC ", ["SHEI,GANGIA"]⟩,
  ⟨0x2CEF, "COPTIC COMBINING ", ["NI ABOVE,SPIRITUS ASPER,SPIRITUS LENIS"]⟩,
  ⟨0x2CF2, "COPTIC * LETTER BOHAIRIC KHEI", [""]⟩,
  ⟨0x2CF9, "COPTIC OLD NUBIAN ", ["FULL STOP,DIRECT QUESTION MARK,INDIRECT QUESTION MARK,VERSE DIVIDER"]⟩,
  ⟨0x2CFD, "COPTIC ", ["FRACTION ONE HALF,FULL STOP,MORPHOLOGICAL DIVIDER"]⟩,
  ⟨0x2D00, "GEORGIAN SMALL LETTER ", ["AN,BAN,GAN,DON,EN,VIN,ZEN,TAN,IN,KAN,LAS,MAN,NAR,ON,PAR,ZHAR,RAE,SAN,TAR",
    "UN,PHAR,KHAR,GHAN,QAR,SHIN,CHIN,CAN,JIL,CIL,CHAR,XAN,JHAN,HAE,HE,HIE,WE,HAR,HOE"]⟩,
  ⟨0x2D27, "GEORGIAN SMALL LETTER YN", [""]⟩,
  ⟨0x2D2D, "GEORGIAN SMALL LETTER AEN", [""]⟩,
  ⟨0x2D30, "TIFINAGH LETTER ", ["YA,YAB,YABH,YAG,YAGHH,BERBER ACADEMY YAJ,YAJ,YAD,YADH,YADD,YADDH,YEY,YAF,YAK",
    "TUAREG YAK,YAKHH,YAH,BERBER ACADEMY YAH,TUAREG YAH,YAHH,YAA,YAKH,TUAREG YAKH,YAQ,TUAREG YAQ,YI,YAZH",
    "AHAGGAR YAZH,TUAREG YAZH,YAL,YAM,YAN,TUAREG YAGN,TUAREG YANG,YAP,YU,YAR,YARR,YAGH,TUAREG YAGH,AYER YAGH,YAS",
    "YASS,YASH,YAT,YATH,YACH,YATT,YAV,YAW,YAY,YAZ,TAWELLEMET YAZ,YAZZ,YE,YO"]⟩,
  ⟨0x2D6F, "TIFINAGH ", ["MODIFIER LETTER LABIALIZATION MARK,SEPARATOR MARK"]⟩,
  ⟨0x2D7F, "TIFINAGH CONSONANT JOINER", [""]⟩,
  ⟨0x2D80, "ETHIOPIC SYLLABLE ", ["LOA,MOA,ROA,SOA,SHOA,BOA,TOA,COA,NOA,NYOA,GLOTTAL OA,ZOA,DOA,DDOA,JOA,THOA",
    "CHOA,PHOA,POA,GGWA,GGWI,GGWEE,GGWE"]⟩,
  ⟨0x2DA0, "ETHIOPIC SYLLABLE SS", ["A,U,I,AA,EE,E,O"]⟩,
  ⟨0x2DA8, "ETHIOPIC SYLLABLE CC", ["A,U,I,AA,EE,E,O"]⟩,
  ⟨0x2DB0, "ETHIOPIC SYLLABLE ZZ", ["A,U,I,AA,EE,E,O"]⟩,
  ⟨0x2DB8, "ETHIOPIC SYLLABLE CCH", ["A,U,I,AA,EE,E,O"]⟩,
  ⟨0x2DC0, "ETHIOPIC SYLLABLE QY", ["A,U,I,AA,EE,E,O"]⟩,
  ⟨0x2DC8, "ETHIOPIC SYLLABLE KY", ["A,U,I,AA,EE,E,O"]⟩,
  ⟨0x2DD0, "ETHIOPIC SYLLABLE XY", ["A,U,I,AA,EE,E,O"]⟩,
  ⟨0x2DD8, "ETHIOPIC SYLLABLE GY", ["A,U,I,AA,EE,E,O"]⟩,
  ⟨0x2DE0, "COMBINING CYRILLIC LETTER ", ["BE,VE,GHE,DE,ZHE,ZE,KA,EL,EM,EN,O,PE,ER,ES,TE,HA,TSE,CHE,SHA,SHCHA",
    "FITA,ES-TE,A,IE,DJERV,MONOGRAPH UK,YAT,YU,IOTIFIED A,LITTLE YUS,BIG YUS,IOTIFIED BIG YUS"]⟩,
  ⟨0x2E00, "", ["RIGHT ANGLE SUBSTITUTION MARKER,RIGHT ANGLE DOTTED SUBSTITUTION MARKER,LEFT SUBSTITUTION BRACKET",
    "RIGHT SUBSTITUTION BRACKET,LEFT DOTTED SUBSTITUTION BRACKET,RIGHT DOTTED SUBSTITUTION BRACKET",
    "RAISED INTERPOLATION MARKER,RAISED DOTTED INTERPOLATION MARKER,DOTTED TRANSPOSITION MARKER",
    "LEFT TRANSPOSITION BRACKET,RIGHT TRANSPOSITION BRACKET,RAISED SQUARE,LEFT RAISED OMISSION BRACKET",
    "RIGHT RAISED OMISSION BRACKET,EDITORIAL CORONIS,PARAGRAPHOS,FORKED PARAGRAPHOS,REVERSED FORKED PARAGRAPHOS",
    "HYPODIASTOLE,DOTTED OBELOS,DOWNWARDS ANCORA,UPWARDS ANCORA,DOTTED RIGHT-POINTING ANGLE,DOUBLE OBLIQUE HYPHEN",
    "INVERTED INTERROBANG,PALM BRANCH,HYPHEN WITH DIAERESIS,TILDE WITH RING ABOVE,LEFT LOW PARAPHRASE BRACKET",
    "RIGHT LOW PARAPHRASE BRACKET,TILDE WITH DOT ABOVE,TILDE WITH DOT BELOW,LEFT VERTICAL BAR WITH QUILL",
    "RIGHT VERTICAL BAR WITH QUILL,TOP LEFT HALF BRACKET,TOP RIGHT HALF BRACKET,BOTTOM LEFT HALF BRACKET",
    "BOTTOM RIGHT HALF BRACKET,LEFT SIDEWAYS U BRACKET,RIGHT SIDEWAYS U BRACKET,LEFT DOUBLE PARENTHESIS",
    "RIGHT DOUBLE PARENTHESIS,TWO DOTS OVER ONE DOT PUNCTUATION,ONE DOT OVER TWO DOTS PUNCTUATION",
    "SQUARED FOUR DOT PUNCTUATION,FIVE DOT MARK,REVERSED QUESTION MARK,VERTICAL TILDE,RING POINT",
    "WORD SEPARATOR MIDDLE DOT,TURNED COMMA,RAISED DOT,RAISED COMMA,TURNED SEMICOLON,DAGGER WITH LEFT GUARD",
    "DAGGER WITH RIGHT GUARD,TURNED DAGGER,TOP HALF SECTION SIGN,TWO-EM DASH,THREE-EM DASH,STENOGRAPHIC FULL STOP",
    "VERTICAL SIX DOTS,WIGGLY VERTICAL LINE,CAPITULUM,DOUBLE HYPHEN,REVERSED COMMA",
    "DOUBLE LOW-REVERSED-9 QUOTATION MARK,DASH WITH LEFT UPTURN,DOUBLE SUSPENSION MARK,INVERTED LOW KAVYKA",
    "INVERTED LOW KAVYKA WITH KAVYKA ABOVE,LOW KAVYKA,LOW KAVYKA WITH DOT,DOUBLE STACKED COMMA,DOTTED SOLIDUS",
    "TRIPLE DAGGER,MEDIEVAL COMMA,PARAGRAPHUS MARK,PUNCTUS ELEVATUS MARK,CORNISH VERSE DIVIDER",
    "CROSS PATTY WITH RIGHT CROSSBAR,CROSS PATTY WITH LEFT CROSSBAR,TIRONIAN SIGN CAPITAL ET",
    "MEDIEVAL EXCLAMATION MARK,MEDIEVAL QUESTION MARK,LEFT SQUARE BRACKET WITH STROKE",
    "RIGHT SQUARE BRACKET WITH STROKE,LEFT SQUARE BRACKET WITH DOUBLE STROKE",
    "RIGHT SQUARE BRACKET WITH DOUBLE STROKE,TOP HALF LEFT PARENTHESIS,TOP HALF RIGHT PARENTHESIS",
    "BOTTOM HALF LEFT PARENTHESIS,BOTTOM HALF RIGHT PARENTHESIS,OBLIQUE HYPHEN"]⟩,
  ⟨0x2E80, "CJK RADICAL ", ["REPEAT,CLIFF,SECOND ONE,SECOND TWO,SECOND THREE,PERSON,BOX,TABLE,KNIFE ONE,KNIFE TWO",
    "DIVINATION,SEAL,SMALL ONE,SMALL TWO,LAME ONE,LAME TWO,LAME THREE,LAME FOUR,SNAKE,THREAD,SNOUT ONE,SNOUT TWO",
    "HEART ONE,HEART TWO,HAND,RAP"]⟩,
  ⟨0x2E9B, "CJK RADICAL ", ["CHOKE,SUN,MOON,DEATH,MOTHER,CIVILIAN,WATER ONE,WATER TWO,FIRE,PAW ONE,PAW TWO",
    "SIMPLIFIED HALF TREE TRUNK,COW,DOG,JADE,BOLT OF CLOTH,EYE,SPIRIT ONE,SPIRIT TWO,BAMBOO,SILK",
    "C-SIMPLIFIED SILK,NET ONE,NET TWO,NET THREE,NET FOUR,MESH,SHEEP,RAM,EWE,OLD,BRUSH ONE,BRUSH TWO,MEAT,MORTAR",
    "GRASS ONE,GRASS TWO,GRASS THREE,TIGER,CLOTHES,WEST ONE,WEST TWO,C-SIMPLIFIED SEE,SIMPLIFIED HORN,HORN",
    "C-SIMPLIFIED SPEECH,C-SIMPLIFIED SHELL,FOOT,C-SIMPLIFIED CART,SIMPLIFIED WALK,WALK ONE,WALK TWO,CITY",
    "C-SIMPLIFIED GOLD,LONG ONE,LONG TWO,C-SIMPLIFIED LONG,C-SIMPLIFIED GATE,MOUND ONE,MOUND TWO,RAIN,BLUE",
    "C-SIMPLIFIED TANNED LEATHER,C-SIMPLIFIED LEAF,C-SIMPLIFIED WIND,C-SIMPLIFIED FLY,EAT ONE,EAT TWO,EAT THREE",
    "C-SIMPLIFIED EAT,HEAD,C-SIMPLIFIED HORSE,BONE,GHOST,C-SIMPLIFIED FISH,C-SIMPLIFIED BIRD,C-SIMPLIFIED SALT",
    "SIMPLIFIED WHEAT,SIMPLIFIED YELLOW,C-SIMPLIFIED FROG,J-SIMPLIFIED EVEN,C-SIMPLIFIED EVEN,J-SIMPLIFIED TOOTH",
    "C-SIMPLIFIED TOOTH,J-SIMPLIFIED DRAGON,C-SIMPLIFIED DRAGON,TURTLE,J-SIMPLIFIED TURTLE,C-SIMPLIFIED TURTLE"]⟩,
  ⟨0x2F00, "KANGXI RADICAL ", ["ONE,LINE,DOT,SLASH,SECOND,HOOK,TWO,LID,MAN,LEGS,ENTER,EIGHT,DOWN BOX,COVER,ICE",
    "TABLE,OPEN BOX,KNIFE,POWER,WRAP,SPOON,RIGHT OPEN BOX,HIDING ENCLOSURE,TEN,DIVINATION,SEAL,CLIFF,PRIVATE",
    "AGAIN,MOUTH,ENCLOSURE,EARTH,SCHOLAR,GO,GO SLOWLY,EVENING,BIG,WOMAN,CHILD,ROOF,INCH,SMALL,LAME,CORPSE,SPROUT",
    "MOUNTAIN,RIVER,WORK,ONESELF,TURBAN,DRY,SHORT THREAD,DOTTED CLIFF,LONG STRIDE,TWO HANDS,SHOOT,BOW,SNOUT",
    "BRISTLE,STEP,HEART,HALBERD,DOOR,HAND,BRANCH,RAP,SCRIPT,DIPPER,AXE,SQUARE,NOT,SUN,SAY,MOON,TREE,LACK,STOP",
    "DEATH,WEAPON,DO NOT,COMPARE,FUR,CLAN,STEAM,WATER,FIRE,CLAW,FATHER,DOUBLE X,HALF TREE TRUNK,SLICE,FANG,COW",
    "DOG,PROFOUND,JADE,MELON,TILE,SWEET,LIFE,USE,FIELD,BOLT OF CLOTH,SICKNESS,DOTTED TENT,WHITE,SKIN,DISH,EYE",
    "SPEAR,ARROW,STONE,SPIRIT,TRACK,GRAIN,CAVE,STAND,BAMBOO,RICE,SILK,JAR,NET,SHEEP,FEATHER,OLD,AND,PLOW,EAR",
    "BRUSH,MEAT,MINISTER,SELF,ARRIVE,MORTAR,TONGUE,OPPOSE,BOAT,STOPPING,COLOR,GRASS,TIGER,INSECT,BLOOD",
    "WALK ENCLOSURE,CLOTHES,WEST,SEE,HORN,SPEECH,VALLEY,BEAN,PIG,BADGER,SHELL,RED,RUN,FOOT,BODY,CART,BITTER",
    "MORNING,WALK,CITY,WINE,DISTINGUISH,VILLAGE,GOLD,LONG,GATE,MOUND,SLAVE,SHORT TAILED BIRD,RAIN,BLUE,WRONG,FACE",
    "LEATHER,TANNED LEATHER,LEEK,SOUND,LEAF,WIND,FLY,EAT,HEAD,FRAGRANT,HORSE,BONE,TALL,HAIR,FIGHT",
    "SACRIFICIAL WINE,CAULDRON,GHOST,FISH,BIRD,SALT,DEER,WHEAT,HEMP,YELLOW,MILLET,BLACK,EMBROIDERY,FROG,TRIPOD",
    "DRUM,RAT,NOSE,EVEN,TOOTH,DRAGON,TURTLE,FLUTE"]⟩,
  ⟨0x2FF0, "IDEOGRAPHIC DESCRIPTION CHARACTER ", ["LEFT TO RIGHT,ABOVE TO BELOW,LEFT TO MIDDLE AND RIGHT",
    "ABOVE TO MIDDLE AND BELOW,FULL SURROUND,SURROUND FROM ABOVE,SURROUND FROM BELOW,SURROUND FROM LEFT",
    "SURROUND FROM UPPER LEFT,SURROUND FROM UPPER RIGHT,SURROUND FROM LOWER LEFT,OVERLAID"]⟩,
  ⟨0x3000, "IDEOGRAPHIC ", ["SPACE,COMMA,FULL STOP"]⟩,
  ⟨0x3003, "", ["DITTO MARK,JAPANESE INDUSTRIAL STANDARD SYMBOL,IDEOGRAPHIC ITERATION MARK",
    "IDEOGRAPHIC CLOSING MARK,IDEOGRAPHIC NUMBER ZERO,LEFT ANGLE BRACKET,RIGHT ANGLE BRACKET",
    "LEFT DOUBLE ANGLE BRACKET,RIGHT DOUBLE ANGLE BRACKET,LEFT CORNER BRACKET,RIGHT CORNER BRACKET",
    "LEFT WHITE CORNER BRACKET,RIGHT WHITE CORNER BRACKET,LEFT BLACK LENTICULAR BRACKET",
    "RIGHT BLACK LENTICULAR BRACKET,POSTAL MARK,GETA MARK,LEFT TORTOISE SHELL BRACKET",
    "RIGHT TORTOISE SHELL BRACKET,LEFT WHITE LENTICULAR BRACKET,RIGHT WHITE LENTICULAR BRACKET",
    "LEFT WHITE TORTOISE SHELL BRACKET,RIGHT WHITE TORTOISE SHELL BRACKET,LEFT WHITE SQUARE BRACKET",
    "RIGHT WHITE SQUARE BRACKET,WAVE DASH,REVERSED DOUBLE PRIME QUOTATION MARK,DOUBLE PRIME QUOTATION MARK",
    "LOW DOUBLE PRIME QUOTATION MARK,POSTAL MARK FACE"]⟩,
  ⟨0x3021, "HANGZHOU NUMERAL ", ["ONE,TWO,THREE,FOUR,FIVE,SIX,SEVEN,EIGHT,NINE"]⟩,
  ⟨0x302A, "IDEOGRAPHIC ", ["LEVEL TONE MARK,RISING TONE MARK,DEPARTING TONE MARK,ENTERING TONE MARK"]⟩,
  ⟨0x302E, "", ["HANGUL SINGLE DOT TONE MARK,HANGUL DOUBLE DOT TONE MARK,WAVY DASH"]⟩,
  ⟨0x3031, "VERTICAL KANA REPEAT ", ["MARK,WITH VOICED SOUND MARK,MARK UPPER HALF",
    "WITH VOICED SOUND MARK UPPER HALF,MARK LOWER HALF"]⟩,
  ⟨0x3036, "", ["CIRCLED POSTAL MARK,IDEOGRAPHIC TELEGRAPH LINE FEED SEPARATOR SYMBOL"]⟩,
  ⟨0x3038, "HANGZHOU NUMERAL T", ["EN,WENTY,HIRTY"]⟩,
  ⟨0x303B, "", ["VERTICAL IDEOGRAPHIC ITERATION MARK,MASU MARK,PART ALTERNATION MARK",
    "IDEOGRAPHIC VARIATION INDICATOR,IDEOGRAPHIC HALF FILL SPACE"]⟩,
  ⟨0x3041, "HIRAGANA LETTER ", ["SMALL A,A,SMALL I,I,SMALL U,U,SMALL E,E,SMALL O,O,KA,GA,KI,GI,KU,GU,KE,GE,KO,GO",
    "SA,ZA,SI,ZI,SU,ZU,SE,ZE,SO,ZO,TA,DA,TI,DI,SMALL TU,TU,DU,TE,DE,TO,DO,NA,NI,NU,NE,NO,HA,BA,PA,HI,BI,PI,HU,BU",
    "PU,HE,BE,PE,HO,BO,PO,MA,MI,MU,ME,MO,SMALL YA,YA,SMALL YU,YU,SMALL YO,YO,RA,RI,RU,RE,RO,SMALL WA,WA,WI,WE,WO",
    "N,VU,SMALL KA,SMALL KE"]⟩,
  ⟨0x3099, "COMBINING KATAKANA-HIRAGANA ", ["VOICED SOUND MARK,SEMI-VOICED SOUND MARK"]⟩,
  ⟨0x309B, "KATAKANA-HIRAGANA ", ["VOICED SOUND MARK,SEMI-VOICED SOUND MARK"]⟩,
  ⟨0x309D, "HIRAGANA ", ["ITERATION MARK,VOICED ITERATION MARK,DIGRAPH YORI"]⟩,
  ⟨0x30A0, "KATAKANA-HIRAGANA DOUBLE HYPHEN", [""]⟩,
  ⟨0x30A1, "KATAKANA LETTER ", ["SMALL A,A,SMALL I,I,SMALL U,U,SMALL E,E,SMALL O,O,KA,GA,KI,GI,KU,GU,KE,GE,KO,GO",
    "SA,ZA,SI,ZI,SU,ZU,SE,ZE,SO,ZO,TA,DA,TI,DI,SMALL TU,TU,DU,TE,DE,TO,DO,NA,NI,NU,NE,NO,HA,BA,PA,HI,BI,PI,HU,BU",
    "PU,HE,BE,PE,HO,BO,PO,MA,MI,MU,ME,MO,SMALL YA,YA,SMALL YU,YU,SMALL YO,YO,RA,RI,RU,RE,RO,SMALL WA,WA,WI,WE,WO",
    "N,VU,SMALL KA,SMALL KE,VA,VI,VE,VO"]⟩,
  ⟨0x30FB, "KATAKANA", [" MIDDLE DOT,-HIRAGANA PROLONGED SOUND MARK, ITERATION MARK, VOICED ITERATION MARK",
    " DIGRAPH KOTO"]⟩,
  ⟨0x3105, "BOPOMOFO LETTER ", ["B,P,M,F,D,T,N,L,G,K,H,J,Q,X,ZH,CH,SH,R,Z,C,S,A,O,E,EH,AI,EI,AU,OU,AN,EN,ANG,ENG",
    "ER,I,U,IU,V,NG,GN,IH,O WITH DOT ABOVE,NN"]⟩,
  ⟨0x3131, "HANGUL LETTER ", ["KIYEOK,SSANGKIYEOK,KIYEOK-SIOS,NIEUN,NIEUN-CIEUC,NIEUN-HIEUH,TIKEUT,SSANGTIKEUT",
    "RIEUL,RIEUL-KIYEOK,RIEUL-MIEUM,RIEUL-PIEUP,RIEUL-SIOS,RIEUL-THIEUTH,RIEUL-PHIEUPH,RIEUL-HIEUH,MIEUM,PIEUP",
    "SSANGPIEUP,PIEUP-SIOS,SIOS,SSANGSIOS,IEUNG,CIEUC,SSANGCIEUC,CHIEUCH,KHIEUKH,THIEUTH,PHIEUPH,HIEUH,A,AE,YA",
    "YAE,EO,E,YEO,YE,O,WA,WAE,OE,YO,U,WEO,WE,WI,YU,EU,YI,I"]⟩,
  ⟨0x3164, "HANGUL FILLER", [""]⟩,
  ⟨0x3165, "HANGUL LETTER ", ["SSANGNIEUN,NIEUN-TIKEUT,NIEUN-SIOS,NIEUN-PANSIOS,RIEUL-KIYEOK-SIOS,RIEUL-TIKEUT",
    "RIEUL-PIEUP-SIOS,RIEUL-PANSIOS,RIEUL-YEORINHIEUH,MIEUM-PIEUP,MIEUM-SIOS,MIEUM-PANSIOS,KAPYEOUNMIEUM",
    "PIEUP-KIYEOK,PIEUP-TIKEUT,PIEUP-SIOS-KIYEOK,PIEUP-SIOS-TIKEUT,PIEUP-CIEUC,PIEUP-THIEUTH,KAPYEOUNPIEUP",
    "KAPYEOUNSSANGPIEUP,SIOS-KIYEOK,SIOS-NIEUN,SIOS-TIKEUT,SIOS-PIEUP,SIOS-CIEUC,PANSIOS,SSANGIEUNG,YESIEUNG",
    "YESIEUNG-SIOS,YESIEUNG-PANSIOS,KAPYEOUNPHIEUPH,SSANGHIEUH,YEORINHIEUH,YO-YA,YO-YAE,YO-I,YU-YEO,YU-YE,YU-I",
    "ARAEA,ARAEAE"]⟩,
  ⟨0x3190, "IDEOGRAPHIC ANNOTATION ", ["LINKING MARK,REVERSE MARK,ONE MARK,TWO MARK,THREE MARK,FOUR MARK,TOP MARK",
    "MIDDLE MARK,BOTTOM MARK,FIRST MARK,SECOND MARK,THIRD MARK,FOURTH MARK,HEAVEN MARK,EARTH MARK,MAN MARK"]⟩,
  ⟨0x31A0, "BOPOMOFO LETTER ", ["BU,ZI,JI,GU,EE,ENN,OO,ONN,IR,ANN,INN,UNN,IM,NGG,AINN,AUNN,AM,OM,ONG,INNN"]⟩,
  ⟨0x31B4, "BOPOMOFO FINAL LETTER ", ["P,T,K,H"]⟩,
  ⟨0x31B8, "BOPOMOFO ", ["LETTER GH,LETTER LH,LETTER ZY,FINAL LETTER G,LETTER GW,LETTER KW,LETTER OE,LETTER AH"]⟩,
  ⟨0x31C0, "CJK STROKE ", ["T,WG,XG,BXG,SW,HZZ,HZG,HP,HZWG,SZWG,HZT,HZZP,HPWG,HZW,HZZZ,N,H,S,P,SP,D,HZ,HG,SZ,SWZ",
    "ST,SG,PD,PZ,TN,SZZ,SWG,HXWG,HZZZG,PG,Q"]⟩,
  ⟨0x31F0, "KATAKANA LETTER SMALL ", ["KU,SI,SU,TO,NU,HA,HI,HU,HE,HO,MU,RA,RI,RU,RE,RO"]⟩,
  ⟨0x3200, "PARENTHESIZED HANGUL ", ["KIYEOK,NIEUN,TIKEUT,RIEUL,MIEUM,PIEUP,SIOS,IEUNG,CIEUC,CHIEUCH,KHIEUKH",
    "THIEUTH,PHIEUPH,HIEUH,KIYEOK A,NIEUN A,TIKEUT A,RIEUL A,MIEUM A,PIEUP A,SIOS A,IEUNG A,CIEUC A,CHIEUCH A",
    "KHIEUKH A,THIEUTH A,PHIEUPH A,HIEUH A,CIEUC U"]⟩,
  ⟨0x321D, "PARENTHESIZED KOREAN CHARACTER O", ["JEON, HU"]⟩,
  ⟨0x3220, "PARENTHESIZED IDEOGRAPH ", ["ONE,TWO,THREE,FOUR,FIVE,SIX,SEVEN,EIGHT,NINE,TEN,MOON,FIRE,WATER,WOOD",
    "METAL,EARTH,SUN,STOCK,HAVE,SOCIETY,NAME,SPECIAL,FINANCIAL,CONGRATULATION,LABOR,REPRESENT,CALL,STUDY",
    "SUPERVISE,ENTERPRISE,RESOURCE,ALLIANCE,FESTIVAL,REST,SELF,REACH"]⟩,
  ⟨0x3244, "CIRCLED IDEOGRAPH ", ["QUESTION,KINDERGARTEN,SCHOOL,KOTO"]⟩,
  ⟨0x3248, "CIRCLED NUMBER ", ["TEN ON BLACK SQUARE,TWENTY ON BLACK SQUARE,THIRTY ON BLACK SQUARE",
    "FORTY ON BLACK SQUARE,FIFTY ON BLACK SQUARE,SIXTY ON BLACK SQUARE,SEVENTY ON BLACK SQUARE",
    "EIGHTY ON BLACK SQUARE"]⟩,
  ⟨0x3250, "PARTNERSHIP SIGN", [""]⟩,
  ⟨0x3251, "CIRCLED NUMBER TWENTY ", ["ONE,TWO,THREE,FOUR,FIVE,SIX,SEVEN,EIGHT,NINE"]⟩,
  ⟨0x325A, "CIRCLED NUMBER THIRTY", [", ONE, TWO, THREE, FOUR, FIVE"]⟩,
  ⟨0x3260, "CIRCLED HANGUL ", ["KIYEOK,NIEUN,TIKEUT,RIEUL,MIEUM,PIEUP,SIOS,IEUNG,CIEUC,CHIEUCH,KHIEUKH,THIEUTH",
    "PHIEUPH,HIEUH,KIYEOK A,NIEUN A,TIKEUT A,RIEUL A,MIEUM A,PIEUP A,SIOS A,IEUNG A,CIEUC A,CHIEUCH A,KHIEUKH A",
    "THIEUTH A,PHIEUPH A,HIEUH A"]⟩,
  ⟨0x327C, "CIRCLED KOREAN CHARACTER ", ["CHAMKO,JUEUI"]⟩,
  ⟨0x327E, "", ["CIRCLED HANGUL IEUNG U,KOREAN STANDARD SYMBOL"]⟩,
  ⟨0x3280, "CIRCLED IDEOGRAPH ", ["ONE,TWO,THREE,FOUR,FIVE,SIX,SEVEN,EIGHT,NINE,TEN,MOON,FIRE,WATER,WOOD,METAL",
    "EARTH,SUN,STOCK,HAVE,SOCIETY,NAME,SPECIAL,FINANCIAL,CONGRATULATION,LABOR,SECRET,MALE,FEMALE,SUITABLE",
    "EXCELLENT,PRINT,ATTENTION,ITEM,REST,COPY,CORRECT,HIGH,CENTRE,LOW,LEFT,RIGHT,MEDICINE,RELIGION,STUDY",
    "SUPERVISE,ENTERPRISE,RESOURCE,ALLIANCE,NIGHT"]⟩,
  ⟨0x32B1, "CIRCLED NUMBER THIRTY ", ["SIX,SEVEN,EIGHT,NINE"]⟩,
  ⟨0x32B5, "CIRCLED NUMBER FORTY", [", ONE, TWO, THREE, FOUR, FIVE, SIX, SEVEN, EIGHT, NINE"]⟩,
  ⟨0x32BF, "CIRCLED NUMBER FIFTY", [""]⟩,
  ⟨0x32C0, "IDEOGRAPHIC TELEGRAPH SYMBOL FOR ", ["JANUARY,FEBRUARY,MARCH,APRIL,MAY,JUNE,JULY,AUGUST,SEPTEMBER",
    "OCTOBER,NOVEMBER,DECEMBER"]⟩,
  ⟨0x32CC, "SQUARE ", ["HG,ERG,EV"]⟩,
  ⟨0x32CF, "LIMITED LIABILITY SIGN", [""]⟩,
  ⟨0x32D0, "CIRCLED KATAKANA ", ["A,I,U,E,O,KA,KI,KU,KE,KO,SA,SI,SU,SE,SO,TA,TI,TU,TE,TO,NA,NI,NU,NE,NO,HA,HI,HU",
    "HE,HO,MA,MI,MU,ME,MO,YA,YU,YO,RA,RI,RU,RE,RO,WA,WI,WE,WO"]⟩,
  ⟨0x32FF, "SQUARE ", ["ERA NAME REIWA,APAATO,ARUHUA,ANPEA,AARU,ININGU,INTI,UON,ESUKUUDO,EEKAA,ONSU,OOMU,KAIRI",
    "KARATTO,KARORII,GARON,GANMA,GIGA,GINII,KYURII,GIRUDAA,KIRO,KIROGURAMU,KIROMEETORU,KIROWATTO,GURAMU,GURAMUTON",
    "KURUZEIRO,KUROONE,KEESU,KORUNA,KOOPO,SAIKURU,SANTIIMU,SIRINGU,SENTI,SENTO,DAASU,DESI,DORU,TON,NANO,NOTTO",
    "HAITU,PAASENTO,PAATU,BAARERU,PIASUTORU,PIKURU,PIKO,BIRU,HUARADDO,HUIITO,BUSSYERU,HURAN,HEKUTAARU,PESO,PENIHI",
    "HERUTU,PENSU,PEEZI,BEETA,POINTO,BORUTO,HON,PONDO,HOORU,HOON,MAIKURO,MAIRU,MAHHA,MARUKU,MANSYON,MIKURON,MIRI",
    "MIRIBAARU,MEGA,MEGATON,MEETORU,YAADO,YAARU,YUAN,RITTORU,RIRA,RUPII,RUUBURU,REMU,RENTOGEN,WATTO"]⟩,
  ⟨0x3358, "IDEOGRAPHIC TELEGRAPH SYMBOL FOR HOUR ", ["ZERO,ONE,TWO,THREE,FOUR,FIVE,SIX,SEVEN,EIGHT,NINE,TEN",
    "ELEVEN,TWELVE,THIRTEEN,FOURTEEN,FIFTEEN,SIXTEEN,SEVENTEEN,EIGHTEEN,NINETEEN,TWENTY,TWENTY-ONE,TWENTY-TWO",
    "TWENTY-THREE,TWENTY-FOUR"]⟩,
  ⟨0x3371, "SQUARE ", ["HPA,DA,AU,BAR,OV,PC,DM,DM SQUARED,DM CUBED,IU,ERA NAME HEISEI,ERA NAME SYOUWA",
    "ERA NAME TAISYOU,ERA NAME MEIZI,CORPORATION,PA AMPS,NA,MU A,MA,KA,KB,MB,GB,CAL,KCAL,PF,NF,MU F,MU G,MG,KG,HZ",
    "KHZ,MHZ,GHZ,THZ,MU L,ML,DL,KL,FM,NM,MU M,MM,CM,KM,MM SQUARED,CM SQUARED,M SQUARED,KM SQUARED,MM CUBED",
    "CM CUBED,M CUBED,KM CUBED,M OVER S,M OVER S SQUARED,PA,KPA,MPA,GPA,RAD,RAD OVER S,RAD OVER S SQUARED,PS,NS",
    "MU S,MS,PV,NV,MU V,MV,KV,MV MEGA,PW,NW,MU W,MW,KW,MW MEGA,K OHM,M OHM,AM,BQ,CC,CD,C OVER KG,CO,DB,GY,HA,HP",
    "IN,KK,KM CAPITAL,KT,LM,LN,LOG,LX,MB SMALL,MIL,MOL,PH,PM,PPM,PR,SR,SV,WB,V OVER M,A OVER M"]⟩,
  ⟨0x33E0, "IDEOGRAPHIC TELEGRAPH SYMBOL FOR DAY ", ["ONE,TWO,THREE,FOUR,FIVE,SIX,SEVEN,EIGHT,NINE,TEN,ELEVEN",
    "TWELVE,THIRTEEN,FOURTEEN,FIFTEEN,SIXTEEN,SEVENTEEN,EIGHTEEN,NINETEEN,TWENTY,TWENTY-ONE,TWENTY-TWO",
    "TWENTY-THREE,TWENTY-FOUR,TWENTY-FIVE,TWENTY-SIX,TWENTY-SEVEN,TWENTY-EIGHT,TWENTY-NINE,THIRTY,THIRTY-ONE"]⟩,
  ⟨0x33FF, "SQUARE GAL", [""]⟩,
  ⟨0x4DC0, "HEXAGRAM FOR ", ["THE CREATIVE HEAVEN,THE RECEPTIVE EARTH,DIFFICULTY AT THE BEGINNING,YOUTHFUL FOLLY",
    "WAITING,CONFLICT,THE ARMY,HOLDING TOGETHER,SMALL TAMING,TREADING,PEACE,STANDSTILL,FELLOWSHIP",
    "GREAT POSSESSION,MODESTY,ENTHUSIASM,FOLLOWING,WORK ON THE DECAYED,APPROACH,CONTEMPLATION,BITING THROUGH",
    "GRACE,SPLITTING APART,RETURN,INNOCENCE,GREAT TAMING,MOUTH CORNERS,GREAT PREPONDERANCE,THE ABYSMAL WATER",
    "THE CLINGING FIRE,INFLUENCE,DURATION,RETREAT,GREAT POWER,PROGRESS,DARKENING OF THE LIGHT,THE FAMILY",
    "OPPOSITION,OBSTRUCTION,DELIVERANCE,DECREASE,INCREASE,BREAKTHROUGH,COMING TO MEET,GATHERING TOGETHER",
    "PUSHING UPWARD,OPPRESSION,THE WELL,REVOLUTION,THE CAULDRON,THE AROUSING THUNDER,THE KEEPING STILL MOUNTAIN",
    "DEVELOPMENT,THE MARRYING MAIDEN,ABUNDANCE,THE WANDERER,THE GENTLE WIND,THE JOYOUS LAKE,DISPERSION,LIMITATION",
    "INNER TRUTH,SMALL PREPONDERANCE,AFTER COMPLETION,BEFORE COMPLETION"]⟩,
  ⟨0xA000, "YI SYLLABLE ", ["IT,IX,I,IP,IET,IEX,IE,IEP,AT,AX,A,AP,UOX,UO,UOP,OT,OX,O,OP,EX,E,WU"]⟩,
  ⟨0xA016, "YI SYLLABLE B", ["IT,IX,I,IP,IET,IEX,IE,IEP,AT,AX,A,AP,UOX,UO,UOP,OT,OX,O,OP,EX,E,EP,UT,UX,U,UP,URX",
    "UR,YT,YX,Y,YP,YRX,YR"]⟩,
  ⟨0xA038, "YI SYLLABLE P", ["IT,IX,I,IP,IEX,IE,IEP,AT,AX,A,AP,UOX,UO,UOP,OT,OX,O,OP,UT,UX,U,UP,URX,UR,YT,YX,Y,YP",
    "YRX,YR"]⟩,
  ⟨0xA056, "YI SYLLABLE BB", ["IT,IX,I,IP,IET,IEX,IE,IEP,AT,AX,A,AP,UOX,UO,UOP,OT,OX,O,OP,EX,E,EP,UT,UX,U,UP,URX",
    "UR,YT,YX,Y,YP"]⟩,
  ⟨0xA076, "YI SYLLABLE NB", ["IT,IX,I,IP,IEX,IE,IEP,AT,AX,A,AP,OT,OX,O,OP,UT,UX,U,UP,URX,UR,YT,YX,Y,YP,YRX,YR"]⟩,
  ⟨0xA091, "YI SYLLABLE HM", ["IT,IX,I,IP,IEX,IE,IEP,AT,AX,A,AP,UOX,UO,UOP,OT,OX,O,OP,UT,UX,U,UP,URX,UR,YX,Y,YP",
    "YRX,YR"]⟩,
  ⟨0xA0AE, "YI SYLLABLE M", ["IT,IX,I,IP,IEX,IE,IEP,AT,AX,A,AP,UOT,UOX,UO,UOP,OT,OX,O,OP,EX,E,UT,UX,U,UP,URX,UR",
    "YT,YX,Y,YP"]⟩,
  ⟨0xA0CD, "YI SYLLABLE F", ["IT,IX,I,IP,AT,AX,A,AP,OX,O,OP,UT,UX,U,UP,URX,UR,YT,YX,Y,YP"]⟩,
  ⟨0xA0E2, "YI SYLLABLE V", ["IT,IX,I,IP,IET,IEX,IE,IEP,AT,AX,A,AP,OT,OX,O,OP,EX,EP,UT,UX,U,UP,URX,UR,YT,YX,Y,YP",
    "YRX,YR"]⟩,
  ⟨0xA100, "YI SYLLABLE D", ["IT,IX,I,IP,IEX,IE,IEP,AT,AX,A,AP,UOX,UO,OT,OX,O,OP,EX,E,EP,UT,UX,U,UP,URX,UR"]⟩,
  ⟨0xA11A, "YI SYLLABLE T", ["IT,IX,I,IP,IEX,IE,IEP,AT,AX,A,AP,UOT,UOX,UO,UOP,OT,OX,O,OP,EX,E,EP,UT,UX,U,UP,URX",
    "UR"]⟩,
  ⟨0xA136, "YI SYLLABLE DD", ["IT,IX,I,IP,IEX,IE,IEP,AT,AX,A,AP,UOX,UO,UOP,OT,OX,O,OP,EX,E,EP,UT,UX,U,UP,URX,UR"]⟩,
  ⟨0xA151, "YI SYLLABLE ND", ["IT,IX,I,IP,IEX,IE,AT,AX,A,AP,OT,OX,O,OP,EX,E,EP,UT,UX,U,UP,URX,UR"]⟩,
  ⟨0xA168, "YI SYLLABLE HN", ["IT,IX,I,IP,IET,IEX,IE,IEP,AT,AX,A,AP,UOX,UO,OT,OX,OP,EX,E,EP,UT"]⟩,
  ⟨0xA17D, "YI SYLLABLE N", ["IT,IX,I,IP,IEX,IE,IEP,AX,A,AP,UOX,UO,UOP,OT,OX,O,OP,EX,E,EP,UT,UX,U,UP,URX,UR"]⟩,
  ⟨0xA197, "YI SYLLABLE HL", ["IT,IX,I,IP,IEX,IE,IEP,AT,AX,A,AP,UOX,UO,UOP,OX,O,OP,EX,E,EP,UT,UX,U,UP,URX,UR,YT",
    "YX,Y,YP,YRX,YR"]⟩,
  ⟨0xA1B7, "YI SYLLABLE L", ["IT,IX,I,IP,IET,IEX,IE,IEP,AT,AX,A,AP,UOT,UOX,UO,UOP,OT,OX,O,OP,EX,E,EP,UT,UX,U,UP",
    "URX,UR,YT,YX,Y,YP,YRX,YR"]⟩,
  ⟨0xA1DA, "YI SYLLABLE G", ["IT,IX,I,IP,IET,IEX,IE,IEP,AT,AX,A,AP,UOT,UOX,UO,UOP,OT,OX,O,OP,ET,EX,E,EP,UT,UX,U",
    "UP,URX,UR"]⟩,
  ⟨0xA1F8, "YI SYLLABLE K", ["IT,IX,I,IP,IEX,IE,IEP,AT,AX,A,AP,UOX,UO,UOP,OT,OX,O,OP,ET,EX,E,EP,UT,UX,U,UP,URX,UR"]⟩,
  ⟨0xA214, "YI SYLLABLE GG", ["IT,IX,I,IEX,IE,IEP,AT,AX,A,AP,UOT,UOX,UO,UOP,OT,OX,O,OP,ET,EX,E,EP,UT,UX,U,UP,URX",
    "UR"]⟩,
  ⟨0xA230, "YI SYLLABLE MG", ["IEX,IE,AT,AX,A,AP,UOX,UO,UOP,OT,OX,O,OP,EX,E,EP,UT,UX,U,UP,URX,UR"]⟩,
  ⟨0xA246, "YI SYLLABLE HX", ["IT,IX,I,IP,IET,IEX,IE,IEP,AT,AX,A,AP,UOT,UOX,UO,UOP,OT,OX,O,OP,EX,E,EP"]⟩,
  ⟨0xA25D, "YI SYLLABLE NG", ["IEX,IE,IEP,AT,AX,A,AP,UOT,UOX,UO,OT,OX,O,OP,EX,E,EP"]⟩,
  ⟨0xA26E, "YI SYLLABLE H", ["IT,IEX,IE,AT,AX,A,AP,UOT,UOX,UO,UOP,OT,OX,O,OP,EX,E,EP"]⟩,
  ⟨0xA280, "YI SYLLABLE W", ["AT,AX,A,AP,UOX,UO,UOP,OX,O,OP,EX,E,EP"]⟩,
  ⟨0xA28D, "YI SYLLABLE Z", ["IT,IX,I,IP,IEX,IE,IEP,AT,AX,A,AP,UOX,UO,UOP,OT,OX,O,OP,EX,E,EP,UT,UX,U,UP,URX,UR,YT",
    "YX,Y,YP,YRX,YR"]⟩,
  ⟨0xA2AE, "YI SYLLABLE C", ["IT,IX,I,IP,IET,IEX,IE,IEP,AT,AX,A,AP,UOX,UO,UOP,OT,OX,O,OP,EX,E,EP,UT,UX,U,UP,URX",
    "UR,YT,YX,Y,YP,YRX,YR"]⟩,
  ⟨0xA2D0, "YI SYLLABLE ZZ", ["IT,IX,I,IP,IET,IEX,IE,IEP,AT,AX,A,AP,OX,O,OP,EX,E,EP,UX,U,UP,URX,UR,YT,YX,Y,YP,YRX",
    "YR"]⟩,
  ⟨0xA2ED, "YI SYLLABLE NZ", ["IT,IX,I,IP,IEX,IE,IEP,AT,AX,A,AP,UOX,UO,OX,OP,EX,E,UX,U,UP,URX,UR,YT,YX,Y,YP,YRX",
    "YR"]⟩,
  ⟨0xA309, "YI SYLLABLE S", ["IT,IX,I,IP,IEX,IE,IEP,AT,AX,A,AP,UOX,UO,UOP,OT,OX,O,OP,EX,E,EP,UT,UX,U,UP,URX,UR,YT",
    "YX,Y,YP,YRX,YR"]⟩,
  ⟨0xA32A, "YI SYLLABLE SS", ["IT,IX,I,IP,IEX,IE,IEP,AT,AX,A,AP,OT,OX,O,OP,EX,E,EP,UT,UX,U,UP,YT,YX,Y,YP,YRX,YR"]⟩,
  ⟨0xA346, "YI SYLLABLE ZH", ["AT,AX,A,AP,UOX,UO,UOP,OT,OX,O,OP,ET,EX,E,EP,UT,UX,U,UP,URX,UR,YT,YX,Y,YP,YRX,YR"]⟩,
  ⟨0xA361, "YI SYLLABLE CH", ["AT,AX,A,AP,UOT,UOX,UO,UOP,OT,OX,O,OP,ET,EX,E,EP,UX,U,UP,URX,UR,YT,YX,Y,YP,YRX,YR"]⟩,
  ⟨0xA37C, "YI SYLLABLE RR", ["AX,A,UOX,UO,OT,OX,O,OP,ET,EX,E,EP,UT,UX,U,UP,URX,UR,YT,YX,Y,YP,YRX,YR"]⟩,
  ⟨0xA394, "YI SYLLABLE NR", ["AT,AX,A,AP,OX,O,OP,ET,EX,E,EP,UT,UX,U,UP,URX,UR,YT,YX,Y,YP,YRX,YR"]⟩,
  ⟨0xA3AB, "YI SYLLABLE SH", ["AT,AX,A,AP,UOX,UO,UOP,OT,OX,O,OP,ET,EX,E,EP,UT,UX,U,UP,URX,UR,YT,YX,Y,YP,YRX,YR"]⟩,
  ⟨0xA3C6, "YI SYLLABLE R", ["AT,AX,A,AP,UOX,UO,UOP,OT,OX,O,OP,EX,E,EP,UT,UX,U,UP,URX,UR,YT,YX,Y,YP,YRX,YR"]⟩,
  ⟨0xA3E0, "YI SYLLABLE J", ["IT,IX,I,IP,IET,IEX,IE,IEP,UOT,UOX,UO,UOP,OT,OX,O,OP,UT,UX,U,UP,URX,UR,YT,YX,Y,YP",
    "YRX,YR"]⟩,
  ⟨0xA3FC, "YI SYLLABLE Q", ["IT,IX,I,IP,IET,IEX,IE,IEP,UOT,UOX,UO,UOP,OT,OX,O,OP,UT,UX,U,UP,URX,UR,YT,YX,Y,YP",
    "YRX,YR"]⟩,
  ⟨0xA418, "YI SYLLABLE JJ", ["IT,IX,I,IP,IET,IEX,IE,IEP,UOX,UO,UOP,OT,OX,O,OP,UT,UX,U,UP,URX,UR,YT,YX,Y,YP"]⟩,
  ⟨0xA431, "YI SYLLABLE NJ", ["IT,IX,I,IP,IET,IEX,IE,IEP,UOX,UO,OT,OX,O,OP,UX,U,UP,URX,UR,YT,YX,Y,YP,YRX,YR"]⟩,
  ⟨0xA44A, "YI SYLLABLE NY", ["IT,IX,I,IP,IET,IEX,IE,IEP,UOX,UO,UOP,OT,OX,O,OP,UT,UX,U,UP"]⟩,
  ⟨0xA45D, "YI SYLLABLE X", ["IT,IX,I,IP,IET,IEX,IE,IEP,UOX,UO,OT,OX,O,OP,YT,YX,Y,YP,YRX,YR"]⟩,
  ⟨0xA471, "YI SYLLABLE Y", ["IT,IX,I,IP,IET,IEX,IE,IEP,UOT,UOX,UO,UOP,OT,OX,O,OP,UT,UX,U,UP,URX,UR,YT,YX,Y,YP",
    "YRX,YR"]⟩,
  ⟨0xA490, "YI RADICAL ", ["QOT,LI,KIT,NYIP,CYP,SSI,GGOP,GEP,MI,HXIT,LYR,BBUT,MOP,YO,PUT,HXUO,TAT,GA,ZUP,CYT,DDUR",
    "BUR,GGUO,NYOP,TU,OP,JJUT,ZOT,PYT,HMO,YIT,VUR,SHY,VEP,ZA,JO,NZUP,JJY,GOT,JJIE,WO,DU,SHUR,LIE,CY,CUOP,CIP,HXOP",
    "SHAT,ZUR,SHOP,CHE,ZZIET,NBIE,KE"]⟩,
  ⟨0xA4D0, "LISU LETTER ", ["BA,PA,PHA,DA,TA,THA,GA,KA,KHA,JA,CA,CHA,DZA,TSA,TSHA,MA,NA,LA,SA,ZHA,ZA,NGA,HA,XA",
    "HHA,FA,WA,SHA,YA,GHA,A,AE,E,EU,I,O,U,UE,UH,OE,TONE MYA TI,TONE NA PO"]⟩,
  ⟨0xA4FA, "LISU LETTER TONE MYA ", ["CYA,BO,NA,JEU"]⟩,
  ⟨0xA4FE, "LISU PUNCTUATION ", ["COMMA,FULL STOP"]⟩,
  ⟨0xA500, "VAI SYLLABLE ", ["EE,EEN,HEE,WEE,WEEN,PEE,BHEE,BEE,MBEE,KPEE,MGBEE,GBEE,FEE,VEE,TEE,THEE,DHEE,DHHEE",
    "LEE,REE,DEE,NDEE,SEE,SHEE,ZEE,ZHEE,CEE,JEE,NJEE,YEE,KEE,NGGEE,GEE,MEE,NEE,NYEE,I,IN,HI,HIN,WI,WIN,PI,BHI,BI",
    "MBI,KPI,MGBI,GBI,FI,VI,TI,THI,DHI,DHHI,LI,RI,DI,NDI,SI,SHI,ZI,ZHI,CI,JI,NJI,YI,KI,NGGI,GI,MI,NI,NYI,A,AN",
    "NGAN,HA,HAN,WA,WAN,PA,BHA,BA,MBA,KPA,KPAN,MGBA,GBA,FA,VA,TA,THA,DHA,DHHA,LA,RA,DA,NDA,SA,SHA,ZA,ZHA,CA,JA",
    "NJA,YA,KA,KAN,NGGA,GA,MA,NA,NYA,OO,OON,HOO,WOO,WOON,POO,BHOO,BOO,MBOO,KPOO,MGBOO,GBOO,FOO,VOO,TOO,THOO,DHOO",
    "DHHOO,LOO,ROO,DOO,NDOO,SOO,SHOO,ZOO,ZHOO,COO,JOO,NJOO,YOO,KOO,NGGOO,GOO,MOO,NOO,NYOO,U,UN,HU,HUN,WU,WUN,PU",
    "BHU,BU,MBU,KPU,MGBU,GBU,FU,VU,TU,THU,DHU,DHHU,LU,RU,DU,NDU,SU,SHU,ZU,ZHU,CU,JU,NJU,YU,KU,NGGU,GU,MU,NU,NYU,O",
    "ON,NGON,HO,HON,WO,WON,PO,BHO,BO,MBO,KPO,MGBO,GBO,GBON,FO,VO,TO,THO,DHO,DHHO,LO,RO,DO,NDO,SO,SHO,ZO,ZHO,CO,JO",
    "NJO,YO,KO,NGGO,GO,MO,NO,NYO,E,EN,NGEN,HE,HEN,WE,WEN,PE,BHE,BE,MBE,KPE,KPEN,MGBE,GBE,GBEN,FE,VE,TE,THE,DHE",
    "DHHE,LE,RE,DE,NDE,SE,SHE,ZE,ZHE,CE,JE,NJE,YE,KE,NGGE,NGGEN,GE,GEN,ME,NE,NYE,NG,LENGTHENER"]⟩,
  ⟨0xA60D, "VAI ", ["COMMA,FULL STOP,QUESTION MARK"]⟩,
  ⟨0xA610, "VAI SYLLABLE NDOLE ", ["FA,KA,SOO"]⟩,
  ⟨0xA613, "VAI SYMBOL ", ["FEENG,KEENG,TING,NII,BANG,FAA,TAA,DANG,DOONG,KUNG,TONG,DO-O,JONG"]⟩,
  ⟨0xA620, "VAI DIGIT ", ["ZERO,ONE,TWO,THREE,FOUR,FIVE,SIX,SEVEN,EIGHT,NINE"]⟩,
  ⟨0xA62A, "VAI SYLLABLE NDOLE ", ["MA,DO"]⟩,
  ⟨0xA640, "CYRILLIC * LETTER ", ["ZEMLYA,DZELO,REVERSED DZE,IOTA,DJERV,MONOGRAPH UK,BROAD OMEGA,NEUTRAL YER",
    "YERU WITH BACK YER,IOTIFIED YAT,REVERSED YU,IOTIFIED A,CLOSED LITTLE YUS,BLENDED YUS",
    "IOTIFIED CLOSED LITTLE YUS,YN,REVERSED TSE,SOFT DE,SOFT EL,SOFT EM,MONOCULAR O,BINOCULAR O",
    "DOUBLE MONOCULAR O"]⟩,
  ⟨0xA66E, "CYRILLIC LETTER MULTIOCULAR O", [""]⟩,
  ⟨0xA66F, "COMBINING CYRILLIC ", ["VZMET,TEN MILLIONS SIGN,HUNDRED MILLIONS SIGN,THOUSAND MILLIONS SIGN"]⟩,
  ⟨0xA673, "SLAVONIC ASTERISK", [""]⟩,
  ⟨0xA674, "COMBINING CYRILLIC LETTER ", ["UKRAINIAN IE,I,YI,U,HARD SIGN,YERU,SOFT SIGN,OMEGA"]⟩,
  ⟨0xA67C, "COMBINING CYRILLIC ", ["KAVYKA,PAYEROK"]⟩,
  ⟨0xA67E, "CYRILLIC ", ["KAVYKA,PAYEROK"]⟩,
  ⟨0xA680, "CYRILLIC * LETTER ", ["DWE,DZWE,ZHWE,CCHE,DZZE,TE WITH MIDDLE HOOK,TWE,TSWE,TSSE,TCHE,HWE,SHWE",
    "DOUBLE O,CROSSED O"]⟩,
  ⟨0xA69C, "MODIFIER LETTER CYRILLIC ", ["HARD SIGN,SOFT SIGN"]⟩,
  ⟨0xA69E, "COMBINING CYRILLIC LETTER ", ["EF,IOTIFIED E"]⟩,
  ⟨0xA6A0, "BAMUM LETTER ", ["A,KA,U,KU,EE,REE,TAE,O,NYI,I,LA,PA,RII,RIEE,LEEEE,MEEEE,TAA,NDAA,NJAEM,M,SUU,MU",
    "SHII,SI,SHEUX,SEUX,KYEE,KET,NUAE,NU,NJUAE,YOQ,SHU,YUQ,YA,NSHA,KEUX,PEUX,NJEE,NTEE,PUE,WUE,PEE,FEE,RU,LU,MI",
    "NI,REUX,RAE,KEN,NGKWAEN,NGGA,NGA,SHO,PUAE,FU,FOM,WA,NA,LI,PI,LOQ,KO,MBEN,REN,MEN,MA,TI,KI,MO,MBAA,TET,KPA",
    "TEN,NTUU,SAMBA,FAAMAE,KOVUU,KOGHOM"]⟩,
  ⟨0xA6F0, "BAMUM ", ["COMBINING MARK KOQNDON,COMBINING MARK TUKWENTIS,NJAEMLI,FULL STOP,COLON,COMMA,SEMICOLON",
    "QUESTION MARK"]⟩,
  ⟨0xA700, "MODIFIER LETTER CHINESE TONE Y", ["IN PING,ANG PING,IN SHANG,ANG SHANG,IN QU,ANG QU,IN RU,ANG RU"]⟩,
  ⟨0xA708, "MODIFIER LETTER ", ["EXTRA-HIGH DOTTED TONE BAR,HIGH DOTTED TONE BAR,MID DOTTED TONE BAR",
    "LOW DOTTED TONE BAR,EXTRA-LOW DOTTED TONE BAR,EXTRA-HIGH DOTTED LEFT-STEM TONE BAR",
    "HIGH DOTTED LEFT-STEM TONE BAR,MID DOTTED LEFT-STEM TONE BAR,LOW DOTTED LEFT-STEM TONE BAR",
    "EXTRA-LOW DOTTED LEFT-STEM TONE BAR,EXTRA-HIGH LEFT-STEM TONE BAR,HIGH LEFT-STEM TONE BAR",
    "MID LEFT-STEM TONE BAR,LOW LEFT-STEM TONE BAR,EXTRA-LOW LEFT-STEM TONE BAR,DOT VERTICAL BAR,DOT SLASH",
    "DOT HORIZONTAL BAR,LOWER RIGHT CORNER ANGLE,RAISED UP ARROW,RAISED DOWN ARROW,RAISED EXCLAMATION MARK",
    "RAISED INVERTED EXCLAMATION MARK,LOW INVERTED EXCLAMATION MARK,STRESS AND HIGH TONE,STRESS AND LOW TONE"]⟩,
  ⟨0xA722, "LATIN * LETTER ", ["EGYPTOLOGICAL ALEF,EGYPTOLOGICAL AIN,HENG,TZ,TRESILLO,CUATRILLO",
    "CUATRILLO WITH COMMA"]⟩,
  ⟨0xA730, "LATIN LETTER SMALL CAPITAL ", ["F,S"]⟩,
  ⟨0xA732, "LATIN * LETTER ", ["AA,AO,AU,AV,AV WITH HORIZONTAL BAR,AY,REVERSED C WITH DOT,K WITH STROKE",
    "K WITH DIAGONAL STROKE,K WITH STROKE AND DIAGONAL STROKE,BROKEN L,L WITH HIGH STROKE",
    "O WITH LONG STROKE OVERLAY,O WITH LOOP,OO,P WITH STROKE THROUGH DESCENDER,P WITH FLOURISH",
    "P WITH SQUIRREL TAIL,Q WITH STROKE THROUGH DESCENDER,Q WITH DIAGONAL STROKE,R ROTUNDA,RUM ROTUNDA",
    "V WITH DIAGONAL STROKE,VY,VISIGOTHIC Z,THORN WITH STROKE,THORN WITH STROKE THROUGH DESCENDER,VEND,ET,IS,CON"]⟩,
  ⟨0xA770, "MODIFIER LETTER US", [""]⟩,
  ⟨0xA771, "LATIN SMALL LETTER ", ["DUM,LUM,MUM,NUM,RUM"]⟩,
  ⟨0xA776, "LATIN ", ["LETTER SMALL CAPITAL RUM,SMALL LETTER TUM,SMALL LETTER UM"]⟩,
  ⟨0xA779, "LATIN * LETTER INSULAR ", ["D,F"]⟩,
  ⟨0xA77D, "LATIN CAPITAL LETTER INSULAR G", [""]⟩,
  ⟨0xA77E, "LATIN * LETTER ", ["TURNED INSULAR G,TURNED L,INSULAR R,INSULAR S,INSULAR T"]⟩,
  ⟨0xA788, "MODIFIER LETTER ", ["LOW CIRCUMFLEX ACCENT,COLON,SHORT EQUALS SIGN"]⟩,
  ⟨0xA78B, "LATIN * LETTER SALTILLO", [""]⟩,
  ⟨0xA78D, "LATIN ", ["CAPITAL LETTER TURNED H,SMALL LETTER L WITH RETROFLEX HOOK AND BELT,LETTER SINOLOGICAL DOT"]⟩,
  ⟨0xA790, "LATIN * LETTER ", ["N WITH DESCENDER,C WITH BAR"]⟩,
  ⟨0xA794, "LATIN SMALL LETTER ", ["C WITH PALATAL HOOK,H WITH PALATAL HOOK"]⟩,
  ⟨0xA796, "LATIN * LETTER ", ["B WITH FLOURISH,F WITH STROKE,VOLAPUK AE,VOLAPUK OE,VOLAPUK UE",
    "G WITH OBLIQUE STROKE,K WITH OBLIQUE STROKE,N WITH OBLIQUE STROKE,R WITH OBLIQUE STROKE",
    "S WITH OBLIQUE STROKE"]⟩,
  ⟨0xA7AA, "LATIN CAPITAL LETTER ", ["H WITH HOOK,REVERSED OPEN E,SCRIPT G,L WITH BELT,SMALL CAPITAL I"]⟩,
  ⟨0xA7AF, "LATIN LETTER SMALL CAPITAL Q", [""]⟩,
  ⟨0xA7B0, "LATIN CAPITAL LETTER ", ["TURNED K,TURNED T,J WITH CROSSED-TAIL,CHI"]⟩,
  ⟨0xA7B4, "LATIN * LETTER ", ["BETA,OMEGA,U WITH STROKE,GLOTTAL A,GLOTTAL I,GLOTTAL U,OLD POLISH O,ANGLICANA W"]⟩,
  ⟨0xA7C4, "LATIN CAPITAL LETTER ", ["C WITH PALATAL HOOK,S WITH HOOK,Z WITH PALATAL HOOK"]⟩,
  ⟨0xA7C7, "LATIN * LETTER ", ["D WITH SHORT STROKE OVERLAY,S WITH SHORT STROKE OVERLAY"]⟩,
  ⟨0xA7D0, "LATIN * LETTER CLOSED INSULAR G", [""]⟩,
  ⟨0xA7D3, "LATIN SMALL LETTER DOUBLE THORN", [""]⟩,
  ⟨0xA7D5, "LATIN SMALL LETTER DOUBLE WYNN", [""]⟩,
  ⟨0xA7D6, "LATIN * LETTER ", ["MIDDLE SCOTS S,SIGMOID S"]⟩,
  ⟨0xA7F2, "MODIFIER LETTER CAPITAL ", ["C,F,Q"]⟩,
  ⟨0xA7F5, "LATIN * LETTER REVERSED HALF H", [""]⟩,
  ⟨0xA7F7, "", ["LATIN EPIGRAPHIC LETTER SIDEWAYS I,MODIFIER LETTER CAPITAL H WITH STROKE",
    "MODIFIER LETTER SMALL LIGATURE OE,LATIN LETTER SMALL CAPITAL TURNED M"]⟩,
  ⟨0xA7FB, "LATIN EPIGRAPHIC LETTER ", ["REVERSED F,REVERSED P,INVERTED M,I LONGA,ARCHAIC M"]⟩]

end Formwork.Text
