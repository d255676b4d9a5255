/-
  Formwork.Text.Names.From12000: names of characters from U+12000 on
  (Unicode 14): cuneiform signs, hieroglyphs and their like.
-/

import Formwork.Text.NameRun

namespace Formwork.Text

def namesFrom12000 : List NameRun := [
  ⟨0x12001, "CUNEIFORM SIGN A TIMES ", ["A,BAD,GAN2 TENU,HA,IGI,LAGAR GUNU,MUSH,SAG"]⟩,
  ⟨0x12009, "CUNEIFORM SIGN A", ["2,B"]⟩,
  ⟨0x1200B, "CUNEIFORM SIGN AB TIMES ", ["ASH2,DUN3 GUNU,GAL,GAN2 TENU,HA,IGI GUNU,IMIN,LAGAB,SHESH",
    "U PLUS U PLUS U"]⟩,
  ⟨0x12015, "CUNEIFORM SIGN A", ["B GUNU,B2,B2 TIMES BALAG,B2 TIMES GAN2 TENU,B2 TIMES ME PLUS EN,B2 TIMES SHA3",
    "B2 TIMES TAK4,D,K,K TIMES ERIN2,K TIMES SHITA PLUS GISH,L"]⟩,
  ⟨0x12021, "CUNEIFORM SIGN AL TIMES ", ["AL,DIM2,GISH,HA,KAD3,KI,SHE,USH"]⟩,
  ⟨0x12029, "CUNEIFORM SIGN ", ["ALAN,ALEPH,AMAR,AMAR TIMES SHE,AN,AN OVER AN,AN THREE TIMES",
    "AN PLUS NAGA OPPOSING AN PLUS NAGA,AN PLUS NAGA SQUARED,ANSHE,APIN,ARAD,ARAD TIMES KUR,ARKAB,ASAL2,ASH",
    "ASH ZIDA TENU,ASH KABA TENU,ASH OVER ASH TUG2 OVER TUG2 TUG2 OVER TUG2 PAP,ASH OVER ASH OVER ASH",
    "ASH OVER ASH OVER ASH CROSSING ASH OVER ASH OVER ASH,ASH2,ASHGAB,BA,BAD,BAG3,BAHAR2,BAL,BAL OVER BAL,BALAG",
    "BAR,BARA2,BI,BI TIMES A,BI TIMES GAR,BI TIMES IGI GUNU,BU,BU OVER BU AB,BU OVER BU UN,BU CROSSING BU,BULUG",
    "BULUG OVER BULUG,BUR,BUR2,DA,DAG"]⟩,
  ⟨0x12057, "CUNEIFORM SIGN DAG KISIM5 TIMES ", ["A PLUS MASH,AMAR,BALAG,BI,GA,GA PLUS MASH,GI,GIR2,GUD,HA,IR",
    "IR PLUS LU,KAK,LA,LU,LU PLUS MASH2,LUM,NE,PAP PLUS PAP,SI,TAK4,U2 PLUS GIR2,USH"]⟩,
  ⟨0x1206E, "CUNEIFORM SIGN D", ["AM,AR,ARA3,ARA4,I,IB,IM,IM TIMES SHE,IM2,IN,IN KASKAL U GUNU DISH,ISH,U",
    "U OVER DU,U GUNU,U SHESHIG,UB,UB TIMES ESH2,UB2,UG,UGUD,UH,UN,UN3,UN3 GUNU,UN3 GUNU GUNU,UN4,UR2"]⟩,
  ⟨0x1208A, "CUNEIFORM SIGN E", [", TIMES PAP, OVER E NUN OVER NUN,2,2 TIMES A PLUS HA PLUS DA,2 TIMES GAR",
    "2 TIMES MI,2 TIMES SAL,2 TIMES SHE,2 TIMES U,DIN,GIR,L,N,N TIMES GAN2,N TIMES GAN2 TENU,N TIMES ME",
    "N CROSSING EN,N OPPOSING EN,N SQUARED,REN,RIN2,SH2,ZEN"]⟩,
  ⟨0x120A2, "CUNEIFORM SIGN EZEN TIMES ", ["A,A PLUS LAL,A PLUS LAL TIMES LAL,AN,BAD,DUN3 GUNU,DUN3 GUNU GUNU,HA",
    "HA GUNU,IGI GUNU,KASKAL,KASKAL SQUARED,KU3,LA,LAL TIMES LAL,LI,LU,U2,UD"]⟩,
  ⟨0x120B5, "CUNEIFORM SIGN GA", [", GUNU,2"]⟩,
  ⟨0x120B8, "CUNEIFORM SIGN GA2 TIMES ", ["A PLUS DA PLUS HA,A PLUS HA,A PLUS IGI,AB2 TENU PLUS TAB,AN,ASH",
    "ASH2 PLUS GAL,BAD,BAR PLUS RA,BUR,BUR PLUS RA,DA,DI,DIM TIMES SHE,DUB,EL,EL PLUS LA,EN,EN TIMES GAN2 TENU",
    "GAN2 TENU,GAR,GI,GI4,GI4 PLUS A,GIR2 PLUS SU,HA PLUS LU PLUS ESH2,HAL,HAL PLUS LA,HI PLUS LI,HUB2,IGI GUNU",
    "ISH PLUS HU PLUS ASH,KAK,KASKAL,KID,KID PLUS LAL,KU3 PLUS AN,LA,ME PLUS EN,MI,NUN,NUN OVER NUN,PA,SAL,SAR",
    "SHE,SHE PLUS TUR,SHID,SUM,TAK4,U,UD,UD PLUS DU"]⟩,
  ⟨0x120ED, "CUNEIFORM SIGN G", ["A2 OVER GA2,ABA,ABA CROSSING GABA,AD,AD OVER GAD GAR OVER GAR,AL",
    "AL GAD OVER GAD GAR OVER GAR,ALAM,AM,AN,AN2,AN2 TENU,AN2 OVER GAN2,AN2 CROSSING GAN2,AR,AR3,ASHAN,ESHTIN",
    "ESHTIN TIMES KUR,I,I TIMES E,I TIMES U,I CROSSING GI,I4,I4 OVER GI4,I4 CROSSING GI4,IDIM,IR2,IR2 GUNU,IR3",
    "IR3 TIMES A PLUS IGI,IR3 TIMES GAN2 TENU,IR3 TIMES IGI,IR3 TIMES LU PLUS IGI,IR3 TIMES PA,ISAL,ISH",
    "ISH CROSSING GISH,ISH TIMES BAD,ISH TIMES TAK4,ISH TENU,U,U CROSSING GU,U2,U2 TIMES KAK",
    "U2 TIMES KAK TIMES IGI GUNU,U2 TIMES NUN,U2 TIMES SAL PLUS TUG2,U2 GUNU,UD,UD TIMES A PLUS KUR,UD TIMES KUR",
    "UD OVER GUD LUGAL,UL,UM,UM TIMES SHE,UR,UR7,URUN,URUSH"]⟩,
  ⟨0x12129, "CUNEIFORM SIGN H", ["A,A TENU,A GUNU,AL,I"]⟩,
  ⟨0x1212E, "CUNEIFORM SIGN HI TIMES ", ["ASH,ASH2,BAD,DISH,GAD,KIN,NUN,SHE,U"]⟩,
  ⟨0x12137, "CUNEIFORM SIGN ", ["HU,HUB2,HUB2 TIMES AN,HUB2 TIMES HAL,HUB2 TIMES KASKAL,HUB2 TIMES LISH",
    "HUB2 TIMES UD,HUL2,I,I A,IB,IDIM,IDIM OVER IDIM BUR,IDIM OVER IDIM SQUARED,IG,IGI,IGI DIB,IGI RI",
    "IGI OVER IGI SHIR OVER SHIR UD OVER UD,IGI GUNU,IL,IL TIMES GAN2 TENU,IL2,IM,IM TIMES TAK4,IM CROSSING IM",
    "IM OPPOSING IM,IM SQUARED,IMIN,IN,IR,ISH,KA"]⟩,
  ⟨0x12158, "CUNEIFORM SIGN KA TIMES ", ["A,AD,AD PLUS KU3,ASH2,BAD,BALAG,BAR,BI,ERIN2,ESH2,GA,GAL,GAN2 TENU,GAR",
    "GAR PLUS SHA3 PLUS A,GI,GIR2,GISH PLUS SAR,GISH CROSSING GISH,GU,GUR7,IGI,IM,KAK,KI,KID,LI,LU,ME,ME PLUS DU",
    "ME PLUS GI,ME PLUS TE,MI,MI PLUS NUNUZ,NE,NUN,PI,RU,SA,SAR,SHA,SHE,SHID,SHU,SIG,SUHUR,TAR,U,U2,UD",
    "UMUM TIMES PA,USH,ZI"]⟩,
  ⟨0x1218D, "CUNEIFORM SIGN K", ["A2,A2 CROSSING KA2,AB,AD2,AD3,AD4,AD5,AD5 OVER KAD5,AK,AK TIMES IGI GUNU,AL",
    "AL TIMES BAD,AL CROSSING KAL,AM2,AM4,ASKAL,ASKAL LAGAB TIMES U OVER LAGAB TIMES U",
    "ASKAL OVER KASKAL LAGAB TIMES U OVER LAGAB TIMES U,ESH2,I,I TIMES BAD,I TIMES U,I TIMES UD,ID,IN,ISAL,ISH",
    "ISIM5,ISIM5 OVER KISIM5,U,U OVER HI TIMES ASH2 KU OVER HI TIMES ASH2,U3,U4,U4 VARIANT FORM,U7,UL,UL GUNU,UN",
    "UR,UR OPPOSING KUR,USHU2,WU318"]⟩,
  ⟨0x121B7, "CUNEIFORM SIGN LA", [",GAB"]⟩,
  ⟨0x121B9, "CUNEIFORM SIGN LAGAB TIMES ", ["A,A PLUS DA PLUS HA,A PLUS GAR,A PLUS LAL,AL,AN,ASH ZIDA TENU,BAD,BI",
    "DAR,EN,GA,GAR,GUD,GUD PLUS GUD,HA,HAL,HI TIMES NUN,IGI GUNU,IM,IM PLUS HA,IM PLUS LU,KI,KIN,KU3,KUL",
    "KUL PLUS HI PLUS A,LAGAB,LISH,LU,LUL,ME,ME PLUS EN,MUSH,NE,SHE PLUS SUM,SHITA PLUS GISH PLUS ERIN2",
    "SHITA PLUS GISH TENU,SHU2,SHU2 PLUS SHU2,SUM,TAG,TAK4,TE PLUS A PLUS SU PLUS NA,U,U PLUS A,U PLUS U PLUS U",
    "U2 PLUS ASH,UD,USH"]⟩,
  ⟨0x121EB, "CUNEIFORM SIGN L", ["AGAB SQUARED,AGAR,AGAR TIMES SHE,AGAR TIMES SHE PLUS SUM,AGAR GUNU",
    "AGAR GUNU OVER LAGAR GUNU SHE,AHSHU,AL,AL TIMES LAL,AM,AM TIMES KUR,AM TIMES KUR PLUS RU,I,IL,IMMU2,ISH,U",
    "U TIMES BAD,U2"]⟩,
  ⟨0x121FE, "CUNEIFORM SIGN LU2 TIMES ", ["AL,BAD,ESH2,ESH2 TENU,GAN2 TENU,HI TIMES BAD,IM,KAD2,KAD3",
    "KAD3 PLUS ASH,KI,LA PLUS ASH,LAGAB,ME PLUS EN,NE,NU,SI PLUS ASH,SIK2 PLUS BU,TUG2"]⟩,
  ⟨0x12211, "CUNEIFORM SIGN LU", ["2 TENU,2 CROSSING LU2,2 OPPOSING LU2,2 SQUARED,2 SHESHIG,3,GAL,GAL OVER LUGAL",
    "GAL OPPOSING LUGAL,GAL SHESHIG,H,L,M,M OVER LUM,M OVER LUM GAR OVER GAR"]⟩,
  ⟨0x12220, "CUNEIFORM SIGN M", ["A,A TIMES TAK4,A GUNU,A2,AH,AR,ASH,ASH2,E,ES,I,IN,U,U OVER MU,UG,UG GUNU,UNSUB",
    "URGU2"]⟩,
  ⟨0x12232, "CUNEIFORM SIGN MUSH", [", TIMES A, TIMES KUR, TIMES ZA, OVER MUSH, OVER MUSH TIMES A PLUS NA",
    " CROSSING MUSH,3,3 TIMES A,3 TIMES A PLUS DI,3 TIMES DI,3 GUNU"]⟩,
  ⟨0x1223E, "CUNEIFORM SIGN N", ["A,A2,AGA,AGA INVERTED,AGA TIMES SHU TENU,AGA OPPOSING NAGA,AGAR,AM NUTILLU,AM",
    "AM2,E,E TIMES A,E TIMES UD,E SHESHIG,I,I TIMES E,I2,IM,IM TIMES GAN2 TENU,IM TIMES GAR PLUS GAN2 TENU,INDA2"]⟩,
  ⟨0x12253, "CUNEIFORM SIGN NINDA2 TIMES ", ["AN,ASH,ASH PLUS ASH,GUD,ME PLUS GAN2 TENU,NE,NUN,SHE,SHE PLUS A AN",
    "SHE PLUS ASH,SHE PLUS ASH PLUS ASH,U2 PLUS ASH,USH"]⟩,
  ⟨0x12260, "CUNEIFORM SIGN N", ["ISAG,U,U11,UN"]⟩,
  ⟨0x12264, "CUNEIFORM SIGN NUN LAGAR TIMES ", ["GAR,MASH,SAL,SAL OVER NUN LAGAR TIMES SAL,USH"]⟩,
  ⟨0x12269, "CUNEIFORM SIGN NUN", [" TENU, OVER NUN, CROSSING NUN, CROSSING NUN LAGAR OVER LAGAR,UZ"]⟩,
  ⟨0x1226E, "CUNEIFORM SIGN NUNUZ AB2 TIMES ", ["ASHGAB,BI,DUG,GUD,IGI GUNU,KAD3,LA,NE,SILA3,U2"]⟩,
  ⟨0x12278, "CUNEIFORM SIGN ", ["NUNUZ KISIM5 TIMES BI,NUNUZ KISIM5 TIMES BI U,PA,PAD,PAN,PAP,PESH2,PI"]⟩,
  ⟨0x12280, "CUNEIFORM SIGN PI TIMES ", ["A,AB,BI,BU,E,I,IB,U,U2"]⟩,
  ⟨0x12289, "CUNEIFORM SIGN ", ["PI CROSSING PI,PIRIG,PIRIG TIMES KAL,PIRIG TIMES UD,PIRIG TIMES ZA",
    "PIRIG OPPOSING PIRIG,RA,RAB,RI,RU,SA,SAG NUTILLU,SAG"]⟩,
  ⟨0x12296, "CUNEIFORM SIGN SAG TIMES ", ["A,DU,DUB,HA,KAK,KUR,LUM,MI,NUN,SAL,SHID,TAB,U2,UB,UM,UR,USH"]⟩,
  ⟨0x122A7, "CUNEIFORM SIGN S", ["AG OVER SAG,AG GUNU,AL,AL LAGAB TIMES ASH2,ANGA2,AR,HA,HA3"]⟩,
  ⟨0x122AF, "CUNEIFORM SIGN SHA3 TIMES ", ["A,BAD,GISH,NE,SHU2,TUR,U,U PLUS A"]⟩,
  ⟨0x122B7, "CUNEIFORM SIGN SH", ["A6,AB6,AR2,E,E HU,E OVER SHE GAD OVER GAD GAR OVER GAR",
    "E OVER SHE TAB OVER TAB GAR OVER GAR,EG9,EN,ESH,ESH2,ESHLAM,ID,ID TIMES A,ID TIMES IM,IM"]⟩,
  ⟨0x122C7, "CUNEIFORM SIGN SHIM TIMES ", ["A,BAL,BULUG,DIN,GAR,IGI,IGI GUNU,KUSHU2,LUL,MUG,SAL"]⟩,
  ⟨0x122D2, "CUNEIFORM SIGN S", ["HINIG,HIR,HIR TENU,HIR OVER SHIR BUR OVER BUR,HITA,HU,HU OVER INVERTED SHU,HU2",
    "HUBUR,I,I GUNU,IG,IG4,IG4 OVER SIG4 SHU2,IK2,ILA3,U,U OVER SU,UD,UD2,UHUR,UM,UMASH,UR,UR9"]⟩,
  ⟨0x122EB, "CUNEIFORM SIGN T", ["A,A ASTERISK,A TIMES HI,A TIMES MI,A GUNU,AB",
    "AB OVER TAB NI OVER NI DISH OVER DISH,AB SQUARED,AG,AG TIMES BI,AG TIMES GUD,AG TIMES SHE,AG TIMES SHU",
    "AG TIMES TUG2,AG TIMES UD,AK4,AR,E,E GUNU,I,I TENU,IL,IR,IR TIMES TAK4,IR OVER TIR",
    "IR OVER TIR GAD OVER GAD GAR OVER GAR,U,UG2,UK,UM,UR,UR OVER TUR ZA OVER ZA"]⟩,
  ⟨0x1230B, "CUNEIFORM SIGN U", [", GUD, U U, OVER U PA OVER PA GAR OVER GAR, OVER U SUR OVER SUR",
    " OVER U U REVERSED OVER U REVERSED,2,B,D,D KUSHU2,D TIMES BAD,D TIMES MI,D TIMES U PLUS U PLUS U",
    "D TIMES U PLUS U PLUS U GUNU,D GUNU,D SHESHIG,D SHESHIG TIMES BAD,DUG,M,M TIMES LAGAB,M TIMES ME PLUS DA",
    "M TIMES SHA3,M TIMES U,MBIN,MUM,MUM TIMES KASKAL,MUM TIMES PA,N,N GUNU,R,R CROSSING UR,R SHESHIG,R2"]⟩,
  ⟨0x1232C, "CUNEIFORM SIGN UR2 TIMES ", ["A PLUS HA,A PLUS NA,AL,HA,NUN,U2,U2 PLUS ASH,U2 PLUS BI"]⟩,
  ⟨0x12334, "CUNEIFORM SIGN UR", ["4,I,I3,U"]⟩,
  ⟨0x12338, "CUNEIFORM SIGN URU TIMES ", ["A,ASHGAB,BAR,DUN,GA,GAL,GAN2 TENU,GAR,GU,HA,IGI,IM,ISH,KI,LUM,MIN,PA",
    "SHE,SIG4,TU,U PLUS GUD,UD,URUDA"]⟩,
  ⟨0x1234F, "CUNEIFORM SIGN ", ["URUDA,URUDA TIMES U,USH,USH TIMES A,USH TIMES KU,USH TIMES KUR,USH TIMES TAK4",
    "USHX,USH2,USHUMX,UTUKI,UZ3,UZ3 TIMES KASKAL,UZU,ZA,ZA TENU,ZA SQUARED TIMES KUR,ZAG,ZAMX,ZE2,ZI,ZI OVER ZI",
    "ZI3,ZIB,ZIB KABA TENU,ZIG,ZIZ2,ZU,ZU5,ZU5 TIMES A,ZUBUR,ZUM,KAP ELAMITE,AB TIMES NUN,AB2 TIMES A",
    "AMAR TIMES KUG,DAG KISIM5 TIMES U2 PLUS MASH,DAG3,DISH PLUS SHU,DUB TIMES SHE,EZEN TIMES GUD,EZEN TIMES SHE",
    "GA2 TIMES AN PLUS KAK PLUS A,GA2 TIMES ASH2,GE22,GIG,HUSH"]⟩,
  ⟨0x1237E, "CUNEIFORM SIGN KA TIMES ", ["ANSHE,ASH3,GISH,GUD,HI TIMES ASH2,LUM,PA,SHUL,TU,UR2"]⟩,
  ⟨0x12388, "CUNEIFORM SIGN ", ["LAGAB TIMES GI,LU2 SHESHIG TIMES BAD,LU2 TIMES ESH2 PLUS LAL,LU2 TIMES SHU,MESH",
    "MUSH3 TIMES ZA,NA4,NIN,NIN9,NINDA2 TIMES BAL,NINDA2 TIMES GI,NU11 ROTATED NINETY DEGREES,PESH2 ASTERISK,PIR2",
    "SAG TIMES IGI GUNU,TI2,UM TIMES ME,U U"]⟩,
  ⟨0x12400, "CUNEIFORM NUMERIC SIGN ", ["TWO ASH,THREE ASH,FOUR ASH,FIVE ASH,SIX ASH,SEVEN ASH,EIGHT ASH,NINE ASH",
    "THREE DISH,FOUR DISH,FIVE DISH,SIX DISH,SEVEN DISH,EIGHT DISH,NINE DISH,FOUR U,FIVE U,SIX U,SEVEN U,EIGHT U",
    "NINE U,ONE GESH2,TWO GESH2,THREE GESH2,FOUR GESH2,FIVE GESH2,SIX GESH2,SEVEN GESH2,EIGHT GESH2,NINE GESH2",
    "ONE GESHU,TWO GESHU,THREE GESHU,FOUR GESHU,FIVE GESHU,TWO SHAR2,THREE SHAR2,THREE SHAR2 VARIANT FORM",
    "FOUR SHAR2,FIVE SHAR2,SIX SHAR2,SEVEN SHAR2,EIGHT SHAR2,NINE SHAR2,ONE SHARU,TWO SHARU,THREE SHARU",
    "THREE SHARU VARIANT FORM,FOUR SHARU,FIVE SHARU,SHAR2 TIMES GAL PLUS DISH,SHAR2 TIMES GAL PLUS MIN,ONE BURU",
    "TWO BURU,THREE BURU,THREE BURU VARIANT FORM,FOUR BURU,FIVE BURU,THREE VARIANT FORM ESH16",
    "THREE VARIANT FORM ESH21,FOUR VARIANT FORM LIMMU,FOUR VARIANT FORM LIMMU4,FOUR VARIANT FORM LIMMU A",
    "FOUR VARIANT FORM LIMMU B,SIX VARIANT FORM ASH9,SEVEN VARIANT FORM IMIN3,SEVEN VARIANT FORM IMIN A",
    "SEVEN VARIANT FORM IMIN B,EIGHT VARIANT FORM USSU,EIGHT VARIANT FORM USSU3,NINE VARIANT FORM ILIMMU",
    "NINE VARIANT FORM ILIMMU3,NINE VARIANT FORM ILIMMU4,NINE VARIANT FORM ILIMMU A,TWO ASH TENU,THREE ASH TENU",
    "FOUR ASH TENU,FIVE ASH TENU,SIX ASH TENU,ONE BAN2,TWO BAN2,THREE BAN2,FOUR BAN2,FOUR BAN2 VARIANT FORM",
    "FIVE BAN2,FIVE BAN2 VARIANT FORM,NIGIDAMIN,NIGIDAESH,ONE ESHE3,TWO ESHE3,ONE THIRD DISH,TWO THIRDS DISH",
    "FIVE SIXTHS DISH,ONE THIRD VARIANT FORM A,TWO THIRDS VARIANT FORM A,ONE EIGHTH ASH,ONE QUARTER ASH",
    "OLD ASSYRIAN ONE SIXTH,OLD ASSYRIAN ONE QUARTER,ONE QUARTER GUR,ONE HALF GUR,ELAMITE ONE THIRD",
    "ELAMITE TWO THIRDS,ELAMITE FORTY,ELAMITE FIFTY,FOUR U VARIANT FORM,FIVE U VARIANT FORM,SIX U VARIANT FORM",
    "SEVEN U VARIANT FORM,EIGHT U VARIANT FORM,NINE U VARIANT FORM"]⟩,
  ⟨0x12470, "CUNEIFORM PUNCTUATION SIGN ", ["OLD ASSYRIAN WORD DIVIDER,VERTICAL COLON,DIAGONAL COLON",
    "DIAGONAL TRICOLON,DIAGONAL QUADCOLON"]⟩,
  ⟨0x12480, "CUNEIFORM SIGN ", ["AB TIMES NUN TENU,AB TIMES SHU2,AD TIMES ESH2,BAD TIMES DISH TENU",
    "BAHAR2 TIMES AB2,BAHAR2 TIMES NI,BAHAR2 TIMES ZA,BU OVER BU TIMES NA2,DA TIMES TAK4,DAG TIMES KUR",
    "DIM TIMES IGI,DIM TIMES U U U,DIM2 TIMES UD"]⟩,
  ⟨0x1248D, "CUNEIFORM SIGN DUG TIMES ", ["ANSHE,ASH,ASH AT LEFT,DIN,DUN,ERIN2,GA,GI,GIR2 GUNU,GISH,HA,HI",
    "IGI GUNU,KASKAL,KUR,KUSHU2,KUSHU2 PLUS KASKAL,LAK-020,LAM,LAM TIMES KUR,LUH PLUS GISH,MASH,MES,MI,NI,PI,SHE",
    "SI GUNU"]⟩,
  ⟨0x124A9, "CUNEIFORM SIGN E", ["2 TIMES KUR,2 TIMES PAP,RIN2 X,SH2 CROSSING ESH2"]⟩,
  ⟨0x124AD, "CUNEIFORM SIGN EZEN SHESHIG TIMES ", ["ASH,HI,IGI GUNU,LA,LAL,ME,MES,SU"]⟩,
  ⟨0x124B5, "CUNEIFORM SIGN EZEN TIMES SU", [""]⟩,
  ⟨0x124B6, "CUNEIFORM SIGN GA2 TIMES ", ["BAHAR2,DIM GUNU,DUG TIMES IGI GUNU,DUG TIMES KASKAL,EREN,GA",
    "GAR PLUS DI,GAR PLUS NE,HA PLUS A,KUSHU2 PLUS KASKAL,LAM,LAM TIMES KUR,LUH,MUSH,NE,NE PLUS E2,NE PLUS GI",
    "SHIM,ZIZ2"]⟩,
  ⟨0x124C9, "CUNEIFORM SIGN ", ["GABA ROTATED NINETY DEGREES,GESHTIN TIMES U,GISH TIMES GISH CROSSING GISH",
    "GU2 TIMES IGI GUNU,GUD PLUS GISH TIMES TAK4,HA TENU GUNU,HI TIMES ASH OVER HI TIMES ASH,KA TIMES BU",
    "KA TIMES KA,KA TIMES U U U,KA TIMES UR,LAGAB TIMES ZU OVER ZU"]⟩,
  ⟨0x124D5, "CUNEIFORM SIGN LAK-", ["003,021,025,030,050,051,062,079 OVER LAK-079 GUNU,080,081 OVER LAK-081,092",
    "130,142,210,219,220,225,228,238,265,266,343,347,348,383,384,390,441,449,449 TIMES GU,449 TIMES IGI",
    "449 TIMES PAP PLUS LU3,449 TIMES PAP PLUS PAP PLUS LU3,449 TIMES U2 PLUS BA,450,457,470,483,490,492,493,495",
    "550,608,617"]⟩,
  ⟨0x12502, "CUNEIFORM SIGN LAK-617 TIMES ", ["ASH,BAD,DUN3 GUNU GUNU,KU3,LA,TAR,TE,U2,UD,URUDA"]⟩,
  ⟨0x1250C, "CUNEIFORM SIGN LAK-6", ["36,48"]⟩,
  ⟨0x1250E, "CUNEIFORM SIGN LAK-648 TIMES ", ["DUB,GA,IGI,IGI GUNU,NI,PAP PLUS PAP PLUS LU3,SHESH PLUS KI,UD",
    "URUDA"]⟩,
  ⟨0x12517, "CUNEIFORM SIGN ", ["LAK-724,LAK-749,LU2 GUNU TIMES ASH,LU2 TIMES DISH,LU2 TIMES HAL,LU2 TIMES PAP",
    "LU2 TIMES PAP PLUS PAP PLUS LU3,LU2 TIMES TAK4,MI PLUS ZA7,MUSH OVER MUSH TIMES GA,MUSH OVER MUSH TIMES KAK"]⟩,
  ⟨0x12522, "CUNEIFORM SIGN NINDA2 TIMES ", ["DIM GUNU,GISH,GUL,HI,KESH2,LAK-050,MASH,PAP PLUS PAP,U,U PLUS U",
    "URUDA"]⟩,
  ⟨0x1252D, "CUNEIFORM SIGN ", ["SAG GUNU TIMES HA,SAG TIMES EN,SAG TIMES SHE AT LEFT,SAG TIMES TAK4,SHA6 TENU",
    "SHE OVER SHE,SHE PLUS HUB2,SHE PLUS NAM2,SHE PLUS SAR,SHU2 PLUS DUG TIMES NI,SHU2 PLUS E2 TIMES AN",
    "SI TIMES TAK4,TAK4 PLUS SAG,TUM TIMES GAN2 TENU,TUM TIMES THREE DISH,UR2 INVERTED,UR2 TIMES UD",
    "URU TIMES DARA3,URU TIMES LAK-668,URU TIMES LU3,ZA7,ZU OVER ZU PLUS SAR,ZU5 TIMES THREE DISH TENU"]⟩,
  ⟨0x12F90, "CYPRO-MINOAN SIGN CM0", ["01,02,04,05,06,07,08,09,10,11,12,12B,13,15,17,19,21,23,24,25,26,27,28,29",
    "30,33,34,35,36,37,38,39,40,41,44,46,47,49,50,51,52,53,54,55,56,58,59,60,61,62,63,64,66,67,68,69,70,71,72,73",
    "74,75,75B,76,78,79,80,81,82,83,84,85,86,87,88,89,90,91,92,94,95,96,97,98,99"]⟩,
  ⟨0x12FE5, "CYPRO-MINOAN SIGN CM", ["100,101,102,103,104,105,107,108,109,110,112,114,301,302"]⟩,
  ⟨0x13000, "EGYPTIAN HIEROGLYPH A0", ["01,02,03,04,05,05A,06,06A,06B,07,08,09,10,11,12,13,14,14A,15,16,17,17A,18",
    "19,20,21,22,23,24,25,26,27,28,29,30,31,32,32A,33,34,35,36,37,38,39,40,40A,41,42,42A,43,43A,44,45,45A,46,47",
    "48,49,50,51,52,53,54,55,56,57,58,59,60,61,62,63,64,65,66,67,68,69,70"]⟩,
  ⟨0x13050, "EGYPTIAN HIEROGLYPH B00", ["1,2,3,4,5,5A,6,7,8,9"]⟩,
  ⟨0x1305A, "EGYPTIAN HIEROGLYPH C0", ["01,02,02A,02B,02C,03,04,05,06,07,08,09,10,10A,11,12,13,14,15,16,17,18,19",
    "20,21,22,23,24"]⟩,
  ⟨0x13076, "EGYPTIAN HIEROGLYPH D0", ["01,02,03,04,05,06,07,08,08A,09,10,11,12,13,14,15,16,17,18,19,20,21,22,23",
    "24,25,26,27,27A,28,29,30,31,31A,32,33,34,34A,35,36,37,38,39,40,41,42,43,44,45,46,46A,47,48,48A,49,50,50A,50B",
    "50C,50D,50E,50F,50G,50H,50I,51,52,52A,53,54,54A,55,56,57,58,59,60,61,62,63,64,65,66,67,67A,67B,67C,67D,67E",
    "67F,67G,67H"]⟩,
  ⟨0x130D2, "EGYPTIAN HIEROGLYPH E0", ["01,02,03,04,05,06,07,08,08A,09,09A,10,11,12,13,14,15,16,16A,17,17A,18,19",
    "20,20A,21,22,23,24,25,26,27,28,28A,29,30,31,32,33,34,34A,36,37,38"]⟩,
  ⟨0x130FE, "EGYPTIAN HIEROGLYPH F0", ["01,01A,02,03,04,05,06,07,08,09,10,11,12,13,13A,14,15,16,17,18,19,20,21",
    "21A,22,23,24,25,26,27,28,29,30,31,31A,32,33,34,35,36,37,37A,38,38A,39,40,41,42,43,44,45,45A,46,46A,47,47A,48",
    "49,50,51,51A,51B,51C,52,53"]⟩,
  ⟨0x1313F, "EGYPTIAN HIEROGLYPH G0", ["01,02,03,04,05,06,06A,07,07A,07B,08,09,10,11,11A,12,13,14,15,16,17,18,19",
    "20,20A,21,22,23,24,25,26,26A,27,28,29,30,31,32,33,34,35,36,36A,37,37A,38,39,40,41,42,43,43A,44,45,45A,46,47",
    "48,49,50,51,52,53,54"]⟩,
  ⟨0x1317F, "EGYPTIAN HIEROGLYPH H00", ["1,2,3,4,5,6,6A,7,8"]⟩,
  ⟨0x13188, "EGYPTIAN HIEROGLYPH I0", ["01,02,03,04,05,05A,06,07,08,09,09A,10,10A,11,11A,12,13,14,15"]⟩,
  ⟨0x1319B, "EGYPTIAN HIEROGLYPH K00", ["1,2,3,4,5,6,7,8"]⟩,
  ⟨0x131A3, "EGYPTIAN HIEROGLYPH L00", ["1,2,2A,3,4,5,6,6A,7,8"]⟩,
  ⟨0x131AD, "EGYPTIAN HIEROGLYPH M0", ["01,01A,01B,02,03,03A,04,05,06,07,08,09,10,10A,11,12,12A,12B,12C,12D,12E",
    "12F,12G,12H,13,14,15,15A,16,16A,17,17A,18,19,20,21,22,22A,23,24,24A,25,26,27,28,28A,29,30,31,31A,32,33,33A",
    "33B,34,35,36,37,38,39,40,40A,41,42,43,44"]⟩,
  ⟨0x131EF, "EGYPTIAN HIEROGLYPH N0", ["01,02,03,04,05,06,07,08,09,10,11,12,13,14,15,16,17,18,18A,18B,19,20,21,22",
    "23,24,25,25A,26,27,28,29,30,31,32,33,33A,34,34A,35,35A,36,37,37A,38,39,40,41,42"]⟩,
  ⟨0x13220, "EGYPTIAN HIEROGLYPH NL0", ["01,02,03,04,05,05A,06,07,08,09,10,11,12,13,14,15,16,17,17A,18,19,20"]⟩,
  ⟨0x13236, "EGYPTIAN HIEROGLYPH NU0", ["01,02,03,04,05,06,07,08,09,10,10A,11,11A,12,13,14,15,16,17,18,18A,19,20",
    "21,22,22A"]⟩,
  ⟨0x13250, "EGYPTIAN HIEROGLYPH O0", ["01,01A,02,03,04,05,05A,06,06A,06B,06C,06D,06E,06F,07,08,09,10,10A,10B,10C",
    "11,12,13,14,15,16,17,18,19,19A,20,20A,21,22,23,24,24A,25,25A,26,27,28,29,29A,30,30A,31,32,33,33A,34,35,36",
    "36A,36B,36C,36D,37,38,39,40,41,42,43,44,45,46,47,48,49,50,50A,50B,51"]⟩,
  ⟨0x1329B, "EGYPTIAN HIEROGLYPH P0", ["01,01A,02,03,03A,04,05,06,07,08,09,10,11"]⟩,
  ⟨0x132A8, "EGYPTIAN HIEROGLYPH Q00", ["1,2,3,4,5,6,7"]⟩,
  ⟨0x132AF, "EGYPTIAN HIEROGLYPH R0", ["01,02,02A,03,03A,03B,04,05,06,07,08,09,10,10A,11,12,13,14,15,16,16A,17,18",
    "19,20,21,22,23,24,25,26,27,28,29"]⟩,
  ⟨0x132D1, "EGYPTIAN HIEROGLYPH S0", ["01,02,02A,03,04,05,06,06A,07,08,09,10,11,12,13,14,14A,14B,15,16,17,17A,18",
    "19,20,21,22,23,24,25,26,26A,26B,27,28,29,30,31,32,33,34,35,35A,36,37,38,39,40,41,42,43,44,45,46"]⟩,
  ⟨0x13307, "EGYPTIAN HIEROGLYPH T0", ["01,02,03,03A,04,05,06,07,07A,08,08A,09,09A,10,11,11A,12,13,14,15,16,16A",
    "17,18,19,20,21,22,23,24,25,26,27,28,29,30,31,32,32A,33,33A,34,35,36"]⟩,
  ⟨0x13333, "EGYPTIAN HIEROGLYPH U0", ["01,02,03,04,05,06,06A,06B,07,08,09,10,11,12,13,14,15,16,17,18,19,20,21,22",
    "23,23A,24,25,26,27,28,29,29A,30,31,32,32A,33,34,35,36,37,38,39,40,41,42"]⟩,
  ⟨0x13362, "EGYPTIAN HIEROGLYPH V0", ["01,01A,01B,01C,01D,01E,01F,01G,01H,01I,02,02A,03,04,05,06,07,07A,07B,08",
    "09,10,11,11A,11B,11C,12,12A,12B,13,14,15,16,17,18,19,20,20A,20B,20C,20D,20E,20F,20G,20H,20I,20J,20K,20L,21",
    "22,23,23A,24,25,26,27,28,28A,29,29A,30,30A,31,31A,32,33,33A,34,35,36,37,37A,38,39,40,40A"]⟩,
  ⟨0x133AF, "EGYPTIAN HIEROGLYPH W0", ["01,02,03,03A,04,05,06,07,08,09,09A,10,10A,11,12,13,14,14A,15,16,17,17A,18",
    "18A,19,20,21,22,23,24,24A,25"]⟩,
  ⟨0x133CF, "EGYPTIAN HIEROGLYPH X00", ["1,2,3,4,4A,4B,5,6,6A,7,8,8A"]⟩,
  ⟨0x133DB, "EGYPTIAN HIEROGLYPH Y00", ["1,1A,2,3,4,5,6,7,8"]⟩,
  ⟨0x133E4, "EGYPTIAN HIEROGLYPH Z00", ["1,2,2A,2B,2C,2D,3,3A,3B,4,4A,5,5A,6,7,8,9"]⟩,
  ⟨0x133F5, "EGYPTIAN HIEROGLYPH Z01", ["0,1,2,3,4,5,5A,5B,5C,5D,5E,5F,5G,5H,5I,6,6A,6B,6C,6D,6E,6F,6G,6H"]⟩,
  ⟨0x1340D, "EGYPTIAN HIEROGLYPH AA0", ["01,02,03,04,05,06,07,07A,07B,08,09,10,11,12,13,14,15,16,17,18,19,20,21",
    "22,23,24,25,26,27,28,29,30,31,32"]⟩,
  ⟨0x13430, "EGYPTIAN HIEROGLYPH ", ["VERTICAL JOINER,HORIZONTAL JOINER,INSERT AT TOP START",
    "INSERT AT BOTTOM START,INSERT AT TOP END,INSERT AT BOTTOM END,OVERLAY MIDDLE,BEGIN SEGMENT,END SEGMENT"]⟩,
  ⟨0x14400, "ANATOLIAN HIEROGLYPH A0", ["01,02,03,04,05,06,07,08,09,10,10A,11,12,13,14,15,16,17,18,19,20,21,22,23",
    "24,25,26,26A,27,28,29,30,31,32,33,34,35,36,37,38,39,39A,40,41,41A,42,43,44,45,45A,46,46A,46B,47,48,49,50,51",
    "52,53,54,55,56,57,58,59,60,61,62,63,64,65,66,66A,66B,66C,67,68,69,70,71,72,73,74,75,76,77,78,79,80,81,82,83",
    "84,85,86,87,88,89,90,91,92,93,94,95,96,97,97A,98,98A,99"]⟩,
  ⟨0x1446F, "ANATOLIAN HIEROGLYPH A1", ["00,00A,01,01A,02,02A,03,04,04A,04B,04C,05,05A,05B,06,07,07A,07B,07C,08",
    "09,10,10A,10B,11,12,13,14,15,15A,16,17,18,19,20,21,22,23,24,25,25A,26,27,28,29,30,31,32,33,34,35,35A,36,37",
    "38,39,40,41,42,43,44,45,46,47,48,49,50,51,52,53,54,55,56,57,58,59,60,61,62,63,64,65,66,67,68,69,70,71,72,73",
    "74,75,76,77,78,79,80,81,82,83,84,85,86,87,88,89,90,91,92,93,94,95,96,97,98,99"]⟩,
  ⟨0x144E3, "ANATOLIAN HIEROGLYPH A2", ["00,01,02,02A,02B,03,04,05,06,07,07A,08,09,09A,10,11,12,13,14,15,15A,16",
    "16A,17,18,19,20,21,22,23,24,25,26,27,27A,28,29,30,31,32,33,34,35,36,37,38,39,40,41,42,43,44,45,46,47,48,49",
    "50,51,52,53,54,55,56,57,58,59,60,61,62,63,64,65,66,67,67A,68,69,70,71,72,73,74,75,76,77,78,79,80,81,82,83,84",
    "85,86,87,88,89,89A,90,91,92,93,94,94A,95,96,97,98,99,99A"]⟩,
  ⟨0x14552, "ANATOLIAN HIEROGLYPH A3", ["00,01,02,03,04,05,06,07,08,09,09A,10,11,12,13,14,15,16,17,18,19,20,21,22",
    "23,24,25,26,27,28,29,29A,30,31,32A,32B,32C,33,34,35,36,36A,36B,36C,37,38,39,40,41,42,43,44,45,46,47,48,49,50",
    "51,52,53,54,55,56,57,58,59,59A,60,61,62,63,64,64A,65,66,67,68,68A,69,70,71,71A,72,73,74,75,76,77,78,79,80,81",
    "81A,82,83 RA OR RI,83A,84,85,86,86A,87,88,89,90,91,92,93 EIGHT,94,95,96,97,98,99"]⟩,
  ⟨0x145C4, "ANATOLIAN HIEROGLYPH A4", ["00,01,02,03,04,05,06,07,08,09,10 BEGIN LOGOGRAM MARK",
    "10A END LOGOGRAM MARK,11,12,13,14,15,16,17,18,19,20,21,22,23,24,25,26,27,28,29,30,31,32,33,34,35,36,37,38,39",
    "40,41,42,43,44,45,46,47,48,49,50,50A,51,52,53,54,55,56,57,57A,58,59,60,61,62,63,64,65,66,67,68,69,70,71,72",
    "73,74,75,76,77,78,79,80,81,82,83,84,85,86,87,88,89,90,91,92,93,94,95,96,97"]⟩,
  ⟨0x14629, "ANATOLIAN HIEROGLYPH A5", ["01,02,03,04,05,06,07,08,09,10,11,12,13,14,15,16,17,18,19,20,21,22,23,24",
    "25,26,27,28,29,30"]⟩,
  ⟨0x16800, "BAMUM LETTER PHASE-A ", ["NGKUE MFON,GBIEE FON,PON MFON PIPAEMGBIEE,PON MFON PIPAEMBA,NAA MFON",
    "SHUENSHUET,TITA MFON,NZA MFON,SHINDA PA NJI,PON PA NJI PIPAEMGBIEE,PON PA NJI PIPAEMBA,MAEMBGBIEE,TU MAEMBA",
    "NGANGU,MAEMVEUX,MANSUAE,MVEUAENGAM,SEUNYAM,NTOQPEN,KEUKEUTNDA,NKINDI,SUU,NGKUENZEUM,LAPAQ,LET KUT,NTAP MFAA",
    "MAEKEUP,PASHAE,GHEUAERAE,PAMSHAE,MON NGGEUAET,NZUN MEUT,U YUQ NAE,GHEUAEGHEUAE,NTAP NTAA,SISA,MGBASA",
    "MEUNJOMNDEUQ,MOOMPUQ,KAFA,PA LEERAEWA,NDA LEERAEWA,PET,MAEMKPEN,NIKA,PUP,TUAEP,LUAEP,SONJAM,TEUTEUWEN,MAENYI",
    "KET,NDAANGGEUAET,KUOQ,MOOMEUT,SHUM,LOMMAE,FIRI,ROM,KPOQ,SOQ,MAP PIEET,SHIRAE,NTAP,SHOQ NSHUT YUM",
    "NYIT MONGKEUAEQ,PAARAE,NKAARAE,UNKNOWN,NGGEN,MAESI,NJAM,MBANYI,NYET,TEUAEN,SOT,PAAM,NSHIEE,MAEM,NYI,KAQ,NSHA",
    "VEE,LU,NEN,NAQ,MBAQ"]⟩,
  ⟨0x16857, "BAMUM LETTER PHASE-B ", ["NSHUET,TU MAEMGBIEE,SIEE,SET TU,LOM NTEUM,MBA MAELEE,KIEEM,YEURAE,MBAARAE",
    "KAM,PEESHI,YAFU LEERAEWA,LAM NSHUT NYAM,NTIEE SHEUOQ,NDU NJAA,GHEUGHEUAEM,PIT,TU NSIEE,SHET NJAQ,SHEUAEQTU",
    "MFON TEUAEQ,MBIT MBAAKET,NYI NTEUM,KEUPUQ,GHEUGHEN,KEUYEUX,LAANAE,PARUM,VEUM,NGKINDI MVOP,NGGEU MBU,WUAET",
    "SAKEUAE,TAAM,MEUQ,NGGUOQ,NGGUOQ LARGE,MFIYAQ,SUE,MBEURI,MONTIEEN,NYAEMAE,PUNGAAM,MEUT NGGEET,FEUX,MBUOQ,FEE",
    "KEUAEM,MA NJEUAENA,MA NJUQA,LET,NGGAAM,NSEN,MA,KIQ,NGOM"]⟩,
  ⟨0x1688F, "BAMUM LETTER PHASE-C ", ["NGKUE MAEMBA,NZA,YUM,WANGKUOQ,NGGEN,NDEUAEREE,NGKAQ,GHARAE,MBEEKEET,GBAYI",
    "NYIR MKPARAQ MEUN,NTU MBIT,MBEUM,PIRIEEN,NDOMBU,MBAA CABBAGE-TREE,KEUSHEUAEP,GHAP,KEUKAQ,YU MUOMAE,NZEUM",
    "MBUE,NSEUAEN,MBIT,YEUQ,KPARAQ,KAA,SEUX,NDIDA,TAASHAE,NJUEQ,TITA YUE,SUAET,NGGUAEN NYAM,VEUX,NANSANAQ",
    "MA KEUAERI,NTAA,NGGUON,LAP,MBIRIEEN,MGBASAQ,NTEUNGBA,TEUTEUX,NGGUM,FUE,NDEUT,NSA,NSHAQ,BUNG,VEUAEPEN,MBERAE",
    "RU,NJAEM,LAM,TITUAEP,NSUOT NGOM,NJEEEE,KET,NGGU,MAESI,MBUAEM,LU,KUT,NJAM,NGOM,WUP,NGGUEET,NSOM,NTEN",
    "KUOP NKAARAE,NSUN,NDAM,MA NSIEE,YAA,NDAP,SHUEQ,SETFON,MBI,MAEMBA,MBANYI,KEUSEUX,MBEUX,KEUM,MBAA PICKET,YUWOQ",
    "NJEUX,MIEE,MUAE,SHIQ,KEN LAW,KEN FATIGUE,NGAQ,NAQ,LIQ,PIN,PEN,TET"]⟩,
  ⟨0x168F1, "BAMUM LETTER PHASE-D ", ["MBUO,WAP,NJI,MFON,NJIEE,LIEE,NJEUT,NSHEE,NGGAAMAE,NYAM,WUAEN,NGKUN,SHEE",
    "NGKAP,KEUAETMEUN,TEUT,SHEUAE,NJAP,SUE,KET,YAEMMAE,KUOM,SAP,MFEUT,NDEUX,MALEERI,MEUT,SEUAEQ,YEN,NJEUAEM",
    "KEUOT MBUAE,NGKEURI,TU,GHAA,NGKYEE,FEUFEUAET,NDEE,MGBOFUM,LEUAEP,NDON,MONI,MGBEUN,PUUT,MGBIEE,MFO,LUM,NSIEEP",
    "MBAA,KWAET,NYET,TEUAEN,SOT,YUWOQ,KEUM,RAEM,TEEEE,NGKEUAEQ,MFEUAE,NSIEET,KEUP,PIP,PEUTAE,NYUE,LET,NGGAAM",
    "MFIEE,NGGWAEN,YUOM,PAP,YUOP,NDAM,NTEUM,SUAE,KUN,NGGEUX,NGKIEE,TUOT,MEUN,KUQ,NSUM,TEUN,MAENJET,NGGAP,LEUM",
    "NGGUOM,NSHUT,NJUEQ,GHEUAE,KU,REN OLD,TAE,TOQ,NYI,RII,LEEEE,MEEEE,M,SUU,MU,SHII,SHEUX,KYEE,NU,SHU,NTEE,PEE,NI",
    "SHOQ,PUQ,MVOP,LOQ,REN MUCH,TI,NTUU,MBAA SEVEN,SAQ,FAA"]⟩,
  ⟨0x16966, "BAMUM LETTER PHASE-E ", ["NDAP,TOON,MBEUM,LAP,VOM,LOON,PAA,SOM,RAQ,NSHUOP,NDUN,PUAE,TAM,NGKA,KPEUX",
    "WUO,SEE,NGGEUAET,PAAM,TOO,KUOP,LOM,NSHIEE,NGOP,MAEM,NGKEUX,NGOQ,NSHUE,RIMGBA,NJEUX,PEEM,SAA,NGGURAE,MGBA",
    "GHEUX,NGKEUAEM,NJAEMLI,MAP,LOOT,NGGEEEE,NDIQ,TAEN NTEUM,SET,PUM,NDAA SOFTNESS,NGGUAESHAE NYAM,YIEE,GHEUN",
    "TUAE,YEUAE,PO,TUMAE,KEUAE,SUAEN,TEUAEQ,VEUAE,WEUX,LAAM,PU,TAAQ,GHAAMAE,NGEUREUT,SHEUAEQ,MGBEN,MBEE,NZAQ,NKOM",
    "GBET,TUM,KUET,YAP,NYI CLEAVER,YIT,MFEUQ,NDIAQ,PIEEQ,YUEQ,LEUAEM,FUE,GBEUX,NGKUP,KET,MAE,NGKAAMI,GHET,FA,NTUM",
    "PEUT,YEUM,NGGEUAE,NYI BETWEEN,NZUQ,POON,MIEE,FUET,NAE,MUAE,GHEUAE,FU I,MVI,PUAQ,NGKUM,KUT,PIET,NTAP,YEUAET",
    "NGGUP,PA PEOPLE,FU CALL,FOM,NJEE,A,TOQ,O,I,LAQ,PA PLURAL,TAA,TAQ,NDAA MY HOUSE,SHIQ,YEUX,NGUAE,YUAEN",
    "YOQ SWIMMING,YOQ COVER,YUQ,YUN,KEUX,PEUX,NJEE EPOCH,PUE,WUE,FEE,VEE,LU,MI,REUX,RAE,NGUAET,NGA,SHO,SHOQ",
    "FU REMEDY,NA,PI,LOQ,KO,MEN,MA,MAQ,TEU,KI,MON,TEN,FAQ,GHOM"]⟩,
  ⟨0x16A03, "BAMUM LETTER PHASE-F ", ["KA,U,KU,EE,REE,TAE,NYI,LA,RII,RIEE,MEEEE,TAA,NDAA,NJAEM,M,SUU,SHII,SI,SEUX",
    "KYEE,KET,NUAE,NU,NJUAE,YOQ,SHU,YA,NSHA,PEUX,NTEE,WUE,PEE,RU,NI,REUX,KEN,NGKWAEN,NGGA,SHO,PUAE,FOM,WA,LI,LOQ",
    "KO,MBEN,REN,MA,MO,MBAA,TET,KPA,SAMBA,VUEQ"]⟩,
  ⟨0x16A40, "MRO LETTER ", ["TA,NGI,YO,MIM,BA,DA,A,PHI,KHAI,HAO,DAI,CHU,KEAAE,OL,MAEM,NIN,PA,OO,O,RO,SHI,THEA,EA",
    "WA,E,KO,LAN,LA,HAI,RI,TEK"]⟩,
  ⟨0x16A60, "MRO DIGIT ", ["ZERO,ONE,TWO,THREE,FOUR,FIVE,SIX,SEVEN,EIGHT,NINE"]⟩,
  ⟨0x16A6E, "MRO D", ["ANDA,OUBLE DANDA"]⟩,
  ⟨0x16A70, "TANGSA LETTER ", ["OZ,OC,OQ,OX,AZ,AC,AQ,AX,VZ,VC,VQ,VX,EZ,EC,EQ,EX,IZ,IC,IQ,IX,UZ,UC,UQ,UX,AWZ,AWC",
    "AWQ,AWX,UIZ,UIC,UIQ,UIX,FINAL NG,LONG UEX,SHORT UEZ,SHORT AWX,UEC,UEZ,UEQ,UEX,UIUZ,UIUC,UIUQ,UIUX,MZ,MC,MQ",
    "MX,KA,KHA,GA,NGA,SA,YA,WA,PA,NYA,PHA,BA,MA,NA,HA,LA,HTA,TA,DA,RA,NHA,SHA,CA,TSA,GHA,HTTA,THA,XA,FA,DHA,CHA",
    "ZA"]⟩,
  ⟨0x16AC0, "TANGSA DIGIT ", ["ZERO,ONE,TWO,THREE,FOUR,FIVE,SIX,SEVEN,EIGHT,NINE"]⟩,
  ⟨0x16AD0, "BASSA VAH LETTER ", ["ENNI,KA,SE,FA,MBE,YIE,GAH,DHII,KPAH,JO,HWAH,WA,ZO,GBU,DO,CE,UWU,TO,BA,VU,YEIN",
    "PA,WADDA,A,O,OO,U,EE,E,I"]⟩,
  ⟨0x16AF0, "BASSA VAH COMBINING ", ["HIGH TONE,LOW TONE,MID TONE,LOW-MID TONE,HIGH-LOW TONE"]⟩,
  ⟨0x16AF5, "BASSA VAH FULL STOP", [""]⟩,
  ⟨0x16B00, "PAHAWH HMONG VOWEL K", ["EEB,EEV,IB,IV,AUB,AUV,UB,UV,EB,EV,AIB,AIV,OOB,OOV,AWB,AWV,UAB,UAV,OB,OV,IAB",
    "IAV,AB,AV,WB,WV,AAB,AAV"]⟩,
  ⟨0x16B1C, "PAHAWH HMONG CONSONANT ", ["VAU,NTSAU,LAU,HAU,NLAU,RAU,NKAU,QHAU,YAU,HLAU,MAU,CHAU,NCHAU,HNAU,PLHAU",
    "NTHAU,NAU,AU,XAU,CAU"]⟩,
  ⟨0x16B30, "PAHAWH HMONG MARK CIM ", ["TUB,SO,KES,KHAV,SUAM,HOM,TAUM"]⟩,
  ⟨0x16B37, "PAHAWH HMONG SIGN ", ["VOS THOM,VOS TSHAB CEEB,CIM CHEEM,VOS THIAB,VOS FEEM,XYEEM NTXIV,XYEEM RHO",
    "XYEEM TOV,XYEEM FAIB,VOS SEEV,MEEJ SUAB,VOS NRUA,IB YAM,XAUS,CIM TSOV ROG"]⟩,
  ⟨0x16B50, "PAHAWH HMONG DIGIT ", ["ZERO,ONE,TWO,THREE,FOUR,FIVE,SIX,SEVEN,EIGHT,NINE"]⟩,
  ⟨0x16B5B, "PAHAWH HMONG NUMBER ", ["TENS,HUNDREDS,TEN THOUSANDS,MILLIONS,HUNDRED MILLIONS,TEN BILLIONS",
    "TRILLIONS"]⟩,
  ⟨0x16B63, "PAHAWH HMONG SIGN ", ["VOS LUB,XYOO,HLI,THIRD-STAGE HLI,ZWJ THAJ,HNUB,NQIG,XIAB,NTUJ,AV,TXHEEJ CEEV",
    "MEEJ TSEEB,TAU,LOS,MUS,CIM HAIS LUS NTOG NTOG,CIM CUAM TSHOOJ,CIM TXWV,CIM TXWV CHWV,CIM PUB DAWB",
    "CIM NRES TOS"]⟩,
  ⟨0x16B7D, "PAHAWH HMONG CLAN SIGN ", ["TSHEEJ,YEEG,LIS,LAUJ,XYOOJ,KOO,HAWJ,MUAS,THOJ,TSAB,PHAB,KHAB,HAM,VAJ,FAJ",
    "YAJ,TSWB,KWM,VWJ"]⟩,
  ⟨0x16E40, "MEDEFAIDRIN CAPITAL LETTER ", ["M,S,V,W,ATIU,Z,KP,P,T,G,F,I,K,A,J,E,B,C,U,YU,L,Q,HP,NY,X,D,OE,N,R,O",
    "AI,Y"]⟩,
  ⟨0x16E60, "MEDEFAIDRIN SMALL LETTER ", ["M,S,V,W,ATIU,Z,KP,P,T,G,F,I,K,A,J,E,B,C,U,YU,L,Q,HP,NY,X,D,OE,N,R,O,AI",
    "Y"]⟩,
  ⟨0x16E80, "MEDEFAIDRIN DIGIT ", ["ZERO,ONE,TWO,THREE,FOUR,FIVE,SIX,SEVEN,EIGHT,NINE"]⟩,
  ⟨0x16E8A, "MEDEFAIDRIN NUMBER ", ["TEN,ELEVEN,TWELVE,THIRTEEN,FOURTEEN,FIFTEEN,SIXTEEN,SEVENTEEN,EIGHTEEN",
    "NINETEEN"]⟩,
  ⟨0x16E94, "MEDEFAIDRIN ", ["DIGIT ONE ALTERNATE FORM,DIGIT TWO ALTERNATE FORM,DIGIT THREE ALTERNATE FORM,COMMA",
    "FULL STOP,SYMBOL AIVA,EXCLAMATION OH"]⟩,
  ⟨0x16F00, "MIAO LETTER ", ["PA,BA,YI PA,PLA,MA,MHA,ARCHAIC MA,FA,VA,VFA,TA,DA,YI TTA,YI TA,TTA,DDA,NA,NHA",
    "YI NNA,ARCHAIC NA,NNA,NNHA,LA,LYA,LHA,LHYA,TLHA,DLHA,TLHYA,DLHYA,KA,GA,YI KA,QA,QGA,NGA,NGHA,ARCHAIC NGA,HA",
    "XA,GHA,GHHA,TSSA,DZZA,NYA,NYHA,TSHA,DZHA,YI TSHA,YI DZHA,REFORMED TSHA,SHA,SSA,ZHA,ZSHA,TSA,DZA,YI TSA,SA,ZA",
    "ZSA,ZZA,ZZSA,ARCHAIC ZZA,ZZYA,ZZSYA,WA,AH,HHA,BRI,SYI,DZYI,TE,TSE,RTE"]⟩,
  ⟨0x16F4F, "MIAO ", ["SIGN CONSONANT MODIFIER BAR,LETTER NASALIZATION,SIGN ASPIRATION,SIGN REFORMED VOICING",
    "SIGN REFORMED ASPIRATION"]⟩,
  ⟨0x16F54, "MIAO VOWEL SIGN ", ["A,AA,AHH,AN,ANG,O,OO,WO,W,E,EN,ENG,OEY,I,IA,IAN,IANG,IO,IE,II,IU,ING,U,UA,UAN",
    "UANG,UU,UEI,UNG,Y,YI,AE,AEE,ERR,ROUNDED ERR,ER,ROUNDED ER,AI,EI,AU,OU,N,NG,UOG,YUI,OG,OER,VW,IG,EA,IONG,UI"]⟩,
  ⟨0x16F8F, "MIAO TONE ", ["RIGHT,TOP RIGHT,ABOVE,BELOW"]⟩,
  ⟨0x16F93, "MIAO LETTER TONE-", ["2,3,4,5,6,7,8"]⟩,
  ⟨0x16F9A, "MIAO LETTER REFORMED TONE-", ["1,2,4,5,6,8"]⟩,
  ⟨0x16FE0, "", ["TANGUT ITERATION MARK,NUSHU ITERATION MARK,OLD CHINESE HOOK MARK,OLD CHINESE ITERATION MARK",
    "KHITAN SMALL SCRIPT FILLER"]⟩,
  ⟨0x16FF0, "VIETNAMESE ALTERNATE READING MARK ", ["CA,NHAY"]⟩,
  ⟨0x18800, "TANGUT COMPONENT-0", ["01,02,03,04,05,06,07,08,09,10,11,12,13,14,15,16,17,18,19,20,21,22,23,24,25,26",
    "27,28,29,30,31,32,33,34,35,36,37,38,39,40,41,42,43,44,45,46,47,48,49,50,51,52,53,54,55,56,57,58,59,60,61,62",
    "63,64,65,66,67,68,69,70,71,72,73,74,75,76,77,78,79,80,81,82,83,84,85,86,87,88,89,90,91,92,93,94,95,96,97,98",
    "99"]⟩,
  ⟨0x18863, "TANGUT COMPONENT-1", ["00,01,02,03,04,05,06,07,08,09,10,11,12,13,14,15,16,17,18,19,20,21,22,23,24,25",
    "26,27,28,29,30,31,32,33,34,35,36,37,38,39,40,41,42,43,44,45,46,47,48,49,50,51,52,53,54,55,56,57,58,59,60,61",
    "62,63,64,65,66,67,68,69,70,71,72,73,74,75,76,77,78,79,80,81,82,83,84,85,86,87,88,89,90,91,92,93,94,95,96,97",
    "98,99"]⟩,
  ⟨0x188C7, "TANGUT COMPONENT-2", ["00,01,02,03,04,05,06,07,08,09,10,11,12,13,14,15,16,17,18,19,20,21,22,23,24,25",
    "26,27,28,29,30,31,32,33,34,35,36,37,38,39,40,41,42,43,44,45,46,47,48,49,50,51,52,53,54,55,56,57,58,59,60,61",
    "62,63,64,65,66,67,68,69,70,71,72,73,74,75,76,77,78,79,80,81,82,83,84,85,86,87,88,89,90,91,92,93,94,95,96,97",
    "98,99"]⟩,
  ⟨0x1892B, "TANGUT COMPONENT-3", ["00,01,02,03,04,05,06,07,08,09,10,11,12,13,14,15,16,17,18,19,20,21,22,23,24,25",
    "26,27,28,29,30,31,32,33,34,35,36,37,38,39,40,41,42,43,44,45,46,47,48,49,50,51,52,53,54,55,56,57,58,59,60,61",
    "62,63,64,65,66,67,68,69,70,71,72,73,74,75,76,77,78,79,80,81,82,83,84,85,86,87,88,89,90,91,92,93,94,95,96,97",
    "98,99"]⟩,
  ⟨0x1898F, "TANGUT COMPONENT-4", ["00,01,02,03,04,05,06,07,08,09,10,11,12,13,14,15,16,17,18,19,20,21,22,23,24,25",
    "26,27,28,29,30,31,32,33,34,35,36,37,38,39,40,41,42,43,44,45,46,47,48,49,50,51,52,53,54,55,56,57,58,59,60,61",
    "62,63,64,65,66,67,68,69,70,71,72,73,74,75,76,77,78,79,80,81,82,83,84,85,86,87,88,89,90,91,92,93,94,95,96,97",
    "98,99"]⟩,
  ⟨0x189F3, "TANGUT COMPONENT-5", ["00,01,02,03,04,05,06,07,08,09,10,11,12,13,14,15,16,17,18,19,20,21,22,23,24,25",
    "26,27,28,29,30,31,32,33,34,35,36,37,38,39,40,41,42,43,44,45,46,47,48,49,50,51,52,53,54,55,56,57,58,59,60,61",
    "62,63,64,65,66,67,68,69,70,71,72,73,74,75,76,77,78,79,80,81,82,83,84,85,86,87,88,89,90,91,92,93,94,95,96,97",
    "98,99"]⟩,
  ⟨0x18A57, "TANGUT COMPONENT-6", ["00,01,02,03,04,05,06,07,08,09,10,11,12,13,14,15,16,17,18,19,20,21,22,23,24,25",
    "26,27,28,29,30,31,32,33,34,35,36,37,38,39,40,41,42,43,44,45,46,47,48,49,50,51,52,53,54,55,56,57,58,59,60,61",
    "62,63,64,65,66,67,68,69,70,71,72,73,74,75,76,77,78,79,80,81,82,83,84,85,86,87,88,89,90,91,92,93,94,95,96,97",
    "98,99"]⟩,
  ⟨0x18ABB, "TANGUT COMPONENT-7", ["00,01,02,03,04,05,06,07,08,09,10,11,12,13,14,15,16,17,18,19,20,21,22,23,24,25",
    "26,27,28,29,30,31,32,33,34,35,36,37,38,39,40,41,42,43,44,45,46,47,48,49,50,51,52,53,54,55,56,57,58,59,60,61",
    "62,63,64,65,66,67,68"]⟩,
  ⟨0x1AFF0, "KATAKANA LETTER MINNAN TONE-", ["2,3,4,5"]⟩,
  ⟨0x1AFF5, "KATAKANA LETTER MINNAN TONE-", ["7,8"]⟩,
  ⟨0x1AFF7, "KATAKANA LETTER MINNAN NASALIZED TONE-", ["1,2,3,4,5"]⟩,
  ⟨0x1AFFD, "KATAKANA LETTER MINNAN NASALIZED TONE-", ["7,8"]⟩,
  ⟨0x1B000, "", ["KATAKANA LETTER ARCHAIC E,HIRAGANA LETTER ARCHAIC YE"]⟩,
  ⟨0x1B002, "HENTAIGANA LETTER ", ["A-1,A-2,A-3,A-WO,I-1,I-2,I-3,I-4,U-1,U-2,U-3,U-4,U-5,E-2,E-3,E-4,E-5,E-6,O-1",
    "O-2,O-3,KA-1,KA-2,KA-3,KA-4,KA-5,KA-6,KA-7,KA-8,KA-9,KA-10,KA-11,KA-KE,KI-1,KI-2,KI-3,KI-4,KI-5,KI-6,KI-7",
    "KI-8,KU-1,KU-2,KU-3,KU-4,KU-5,KU-6,KU-7,KE-1,KE-2,KE-3,KE-4,KE-5,KE-6,KO-1,KO-2,KO-3,KO-KI,SA-1,SA-2,SA-3",
    "SA-4,SA-5,SA-6,SA-7,SA-8,SI-1,SI-2,SI-3,SI-4,SI-5,SI-6,SU-1,SU-2,SU-3,SU-4,SU-5,SU-6,SU-7,SU-8,SE-1,SE-2",
    "SE-3,SE-4,SE-5,SO-1,SO-2,SO-3,SO-4,SO-5,SO-6,SO-7,TA-1,TA-2,TA-3,TA-4,TI-1,TI-2,TI-3,TI-4,TI-5,TI-6,TI-7",
    "TU-1,TU-2,TU-3,TU-4,TU-TO,TE-1,TE-2,TE-3,TE-4,TE-5,TE-6,TE-7,TE-8,TE-9,TO-1,TO-2,TO-3,TO-4,TO-5,TO-6,TO-RA",
    "NA-1,NA-2,NA-3,NA-4,NA-5,NA-6,NA-7,NA-8,NA-9,NI-1,NI-2,NI-3,NI-4,NI-5,NI-6,NI-7,NI-TE,NU-1,NU-2,NU-3,NE-1",
    "NE-2,NE-3,NE-4,NE-5,NE-6,NE-KO,NO-1,NO-2,NO-3,NO-4,NO-5,HA-1,HA-2,HA-3,HA-4,HA-5,HA-6,HA-7,HA-8,HA-9,HA-10",
    "HA-11,HI-1,HI-2,HI-3,HI-4,HI-5,HI-6,HI-7,HU-1,HU-2,HU-3,HE-1,HE-2,HE-3,HE-4,HE-5,HE-6,HE-7,HO-1,HO-2,HO-3",
    "HO-4,HO-5,HO-6,HO-7,HO-8,MA-1,MA-2,MA-3,MA-4,MA-5,MA-6,MA-7,MI-1,MI-2,MI-3,MI-4,MI-5,MI-6,MI-7,MU-1,MU-2",
    "MU-3,MU-4,ME-1,ME-2,ME-MA,MO-1,MO-2,MO-3,MO-4,MO-5,MO-6,YA-1,YA-2,YA-3,YA-4,YA-5,YA-YO,YU-1,YU-2,YU-3,YU-4",
    "YO-1,YO-2,YO-3,YO-4,YO-5,YO-6,RA-1,RA-2,RA-3,RA-4,RI-1,RI-2,RI-3,RI-4,RI-5,RI-6,RI-7,RU-1,RU-2,RU-3,RU-4",
    "RU-5,RU-6,RE-1,RE-2,RE-3,RE-4,RO-1,RO-2,RO-3,RO-4,RO-5,RO-6,WA-1,WA-2,WA-3,WA-4,WA-5,WI-1,WI-2,WI-3,WI-4",
    "WI-5,WE-1,WE-2,WE-3,WE-4,WO-1,WO-2,WO-3,WO-4,WO-5,WO-6,WO-7,N-MU-MO-1,N-MU-MO-2"]⟩,
  ⟨0x1B11F, "HIRAGANA LETTER ARCHAIC WU", [""]⟩,
  ⟨0x1B120, "KATAKANA LETTER ARCHAIC ", ["YI,YE,WU"]⟩,
  ⟨0x1B150, "HIRAGANA LETTER SMALL W", ["I,E,O"]⟩,
  ⟨0x1B164, "KATAKANA LETTER SMALL ", ["WI,WE,WO,N"]⟩,
  ⟨0x1BC00, "DUPLOYAN LETTER ", ["H,X,P,T,F,K,L,B,D,V,G,R,P N,D S,F N,K M,R S,TH,SLOAN DH,DH,KK,SLOAN J,HL,LH,RH",
    "M,N,J,S,M N,N M,J M,S J,M WITH DOT,N WITH DOT,J WITH DOT,J WITH DOTS INSIDE AND ABOVE,S WITH DOT",
    "S WITH DOT BELOW,M S,N S,J S,S S,M N S,N M S,J M S,S J S,J S WITH DOT,J N,J N S,S T,S T R,S P,S P R,T S",
    "T R S,W,WH,W R,S N,S M,K R S,G R S,S K,S K R,A,SLOAN OW,OA,O,AOU,I,E,IE,SHORT I,UI,EE,SLOAN EH,ROMANIAN I",
    "SLOAN EE,LONG I,YE,U,EU,XW,U N,LONG U,ROMANIAN U,UH,SLOAN U,OOH,OW,OU,WA,WO,WI,WEI,WOW,NASAL U,NASAL O",
    "NASAL I,NASAL A,PERNIN AN,PERNIN AM,SLOAN EN,SLOAN AN,SLOAN ON,VOCALIC M"]⟩,
  ⟨0x1BC70, "DUPLOYAN AFFIX ", ["LEFT HORIZONTAL SECANT,MID HORIZONTAL SECANT,RIGHT HORIZONTAL SECANT",
    "LOW VERTICAL SECANT,MID VERTICAL SECANT,HIGH VERTICAL SECANT"]⟩,
  ⟨0x1BC76, "DUPLOYAN AFFIX ATTACHED ", ["SECANT,LEFT-TO-RIGHT SECANT,TANGENT,TAIL,E HOOK,I HOOK,TANGENT HOOK"]⟩,
  ⟨0x1BC80, "DUPLOYAN AFFIX HIGH ", ["ACUTE,TIGHT ACUTE,GRAVE,LONG GRAVE,DOT,CIRCLE,LINE,WAVE,VERTICAL"]⟩,
  ⟨0x1BC90, "DUPLOYAN AFFIX LOW ", ["ACUTE,TIGHT ACUTE,GRAVE,LONG GRAVE,DOT,CIRCLE,LINE,WAVE,VERTICAL,ARROW"]⟩,
  ⟨0x1BC9C, "DUPLOYAN ", ["SIGN O WITH CROSS,THICK LETTER SELECTOR,DOUBLE MARK,PUNCTUATION CHINOOK FULL STOP"]⟩,
  ⟨0x1BCA0, "SHORTHAND FORMAT ", ["LETTER OVERLAP,CONTINUING OVERLAP,DOWN STEP,UP STEP"]⟩,
  ⟨0x1CF00, "ZNAMENNY COMBINING MARK ", ["GORAZDO NIZKO S KRYZHEM ON LEFT,NIZKO S KRYZHEM ON LEFT,TSATA ON LEFT",
    "GORAZDO NIZKO ON LEFT,NIZKO ON LEFT,SREDNE ON LEFT,MALO POVYSHE ON LEFT,POVYSHE ON LEFT,VYSOKO ON LEFT",
    "MALO POVYSHE S KHOKHLOM ON LEFT,POVYSHE S KHOKHLOM ON LEFT,VYSOKO S KHOKHLOM ON LEFT",
    "GORAZDO NIZKO S KRYZHEM ON RIGHT,NIZKO S KRYZHEM ON RIGHT,TSATA ON RIGHT,GORAZDO NIZKO ON RIGHT",
    "NIZKO ON RIGHT,SREDNE ON RIGHT,MALO POVYSHE ON RIGHT,POVYSHE ON RIGHT,VYSOKO ON RIGHT",
    "MALO POVYSHE S KHOKHLOM ON RIGHT,POVYSHE S KHOKHLOM ON RIGHT,VYSOKO S KHOKHLOM ON RIGHT,TSATA S KRYZHEM",
    "MALO POVYSHE S KRYZHEM,STRANNO MALO POVYSHE,POVYSHE S KRYZHEM,POVYSHE STRANNO,VYSOKO S KRYZHEM",
    "MALO POVYSHE STRANNO,GORAZDO VYSOKO,ZELO,ON,RAVNO,TIKHAYA,BORZAYA,UDARKA,PODVERTKA,LOMKA,KUPNAYA,KACHKA",
    "ZEVOK,SKOBA,RAZSEKA,KRYZH ON LEFT"]⟩,
  ⟨0x1CF30, "ZNAMENNY COMBINING TONAL RANGE MARK ", ["MRACHNO,SVETLO,TRESVETLO"]⟩,
  ⟨0x1CF33, "ZNAMENNY COMBINING MARK ", ["ZADERZHKA,DEMESTVENNY ZADERZHKA,OTSECHKA,PODCHASHIE",
    "PODCHASHIE WITH VERTICAL STROKE,CHASHKA,CHASHKA POLNAYA,OBLACHKO,SOROCHYA NOZHKA,TOCHKA,DVOETOCHIE"]⟩,
  ⟨0x1CF3E, "ZNAMENNY COMBINING ", ["ATTACHING VERTICAL OMET,MARK CURVED OMET,MARK KRYZH",
    "LOWER TONAL RANGE INDICATOR"]⟩,
  ⟨0x1CF42, "ZNAMENNY PRIZNAK MODIFIER ", ["LEVEL-2,LEVEL-3,DIRECTION FLIP,KRYZH,ROG"]⟩,
  ⟨0x1CF50, "ZNAMENNY NEUME ", ["KRYUK,KRYUK TIKHY,PARAKLIT,DVA V CHELNU,KLYUCH,ZANOZHEK,STOPITSA",
    "STOPITSA S OCHKOM,PEREVODKA,PEREVODKA NEPOSTOYANNAYA,STOPITSA WITH SOROCHYA NOZHKA,CHELYUSTKA,PALKA",
    "ZAPYATAYA"]⟩,
  ⟨0x1CF5E, "ZNAMENNY NEUME GOLUBCHIK ", ["BORZY,TIKHY,MRACHNY,SVETLY,TRESVETLY"]⟩,
  ⟨0x1CF63, "ZNAMENNY NEUME VRAKHIYA ", ["PROSTAYA,MRACHNAYA,SVETLAYA,TRESVETLAYA,KLYUCHEVAYA PROSTAYA",
    "KLYUCHEVAYA MRACHNAYA,KLYUCHEVAYA SVETLAYA,KLYUCHEVAYA TRESVETLAYA"]⟩,
  ⟨0x1CF6B, "ZNAMENNY NEUME ", ["DOUBLE ZAPYATAYA,REVERSED CHELYUSTKA,DERBITSA,KHAMILO,CHASHKA,PODCHASHIE",
    "SKAMEYTSA MRACHNAYA,SKAMEYTSA SVETLAYA,SKAMEYTSA TRESVETLAYA,SKAMEYTSA TIKHAYA,DEMESTVENNY KLYUCH"]⟩,
  ⟨0x1CF76, "ZNAMENNY NEUME SKAMEYTSA KLYUCHE", ["VAYA SVETLAYA,NEPOSTOYANNAYA,VAYA TIKHAYA"]⟩,
  ⟨0x1CF79, "ZNAMENNY NEUME SKAMEYTSA DVOECHELNAYA ", ["PROSTAYA,SVETLAYA,NEPOSTOYANNAYA,KLYUCHEVAYA"]⟩,
  ⟨0x1CF7D, "ZNAMENNY NEUME ", ["SLOZHITIE,SLOZHITIE S ZAPYATOY,SLOZHITIE ZAKRYTOE,SLOZHITIE S KRYZHEM,KRYZH,ROG",
    "FITA,KOBYLA,ZMEYTSA,STATYA,STATYA S ZAPYATOY,STATYA S KRYZHEM,STATYA S ZAPYATOY I KRYZHEM",
    "STATYA S KRYZHEM I ZAPYATOY,STATYA ZAKRYTAYA,STATYA ZAKRYTAYA S ZAPYATOY,STATYA S ROGOM",
    "STATYA S DVUMYA ZAPYATYMI,STATYA S ZAPYATOY I PODCHASHIEM,POLKULIZMY,STATYA NEPOSTOYANNAYA"]⟩,
  ⟨0x1CF92, "ZNAMENNY NEUME STRELA ", ["PROSTAYA,MRACHNOTIKHAYA,KRYZHEVAYA,POLUPOVODNAYA,POVODNAYA,NEPOSTOYANNAYA",
    "KLYUCHEPOVODNAYA,KLYUCHENEPOSTOYANNAYA,TIKHAYA PUTNAYA,DVOECHELNAYA,DVOECHELNOKRYZHEVAYA,DVOECHELNOPOVODNAYA",
    "DVOECHELNAYA KLYUCHEVAYA,DVOECHELNOPOVODNAYA KLYUCHEVAYA,GROMNAYA WITH SINGLE ZAPYATAYA",
    "GROMOPOVODNAYA WITH SINGLE ZAPYATAYA,GROMNAYA,GROMOPOVODNAYA,GROMOPOVODNAYA WITH DOUBLE ZAPYATAYA",
    "GROMOKRYZHEVAYA,GROMOKRYZHEVAYA POVODNAYA"]⟩,
  ⟨0x1CFA7, "ZNAMENNY NEUME MECHIK", [", POVODNY, KLYUCHEVOY, KLYUCHEPOVODNY, KLYUCHENEPOSTOYANNY"]⟩,
  ⟨0x1CFAC, "ZNAMENNY NEUME STRELA TRYASO", ["GLASNAYA,POVODNAYA,STRELNAYA"]⟩,
  ⟨0x1CFAF, "ZNAMENNY NEUME OSOKA", [", SVETLAYA, TRESVETLAYA, KRYUKOVAYA SVETLAYA, KLYUCHEVAYA SVETLAYA",
    " KLYUCHEVAYA NEPOSTOYANNAYA"]⟩,
  ⟨0x1CFB5, "ZNAMENNY NEUME STRELA KRYUKOVAYA", [", POVODNAYA, GROMNAYA WITH SINGLE ZAPYATAYA",
    " GROMOPOVODNAYA WITH SINGLE ZAPYATAYA, GROMNAYA, GROMOPOVODNAYA, GROMOPOVODNAYA WITH DOUBLE ZAPYATAYA",
    " GROMOKRYZHEVAYA, GROMOKRYZHEVAYA POVODNAYA, TRYASKA"]⟩,
  ⟨0x1CFBF, "ZNAMENNY NEUME ", ["KUFISMA,OBLAKO,DUDA,NEMKA,PAUK"]⟩]

end Formwork.Text
