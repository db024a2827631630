/-!
# The names of cuneiform

The names that Unicode 14 gives to the code points from U+12000 to U+12FF2.  A row
begins with its first code point and what its names have in common; the endings
of the names of that point and those behind it follow, each after a bar.
-/

namespace DebugIndex
namespace Text
namespace Name

/-- The rows of the table, in ascending order. -/
def cuneiformRows : List String :=
  ["12000 |CUNEIFORM SIGN A",
    "12001 CUNEIFORM SIGN A TIMES |A|BAD|GAN2 TENU|HA|IGI|LAGAR GUNU|MUSH|SAG",
    "12009 CUNEIFORM SIGN |A2|AB",
    "1200b CUNEIFORM SIGN AB TIMES |ASH2|DUN3 GUNU|GAL|GAN2 TENU|HA|IGI GUNU|IMIN|LAGAB|SHESH",
    "12014 CUNEIFORM SIGN |AB TIMES U PLUS U PLUS U|AB GUNU|AB2",
    "12017 CUNEIFORM SIGN AB2 TIMES |BALAG|GAN2 TENU|ME PLUS EN|SHA3|TAK4",
    "1201c CUNEIFORM SIGN |AD|AK|AK TIMES ERIN2|AK TIMES SHITA PLUS GISH|AL",
    "12021 CUNEIFORM SIGN AL TIMES |AL|DIM2|GISH|HA|KAD3|KI|SHE|USH",
    "12029 CUNEIFORM SIGN |ALAN|ALEPH|AMAR|AMAR TIMES SHE|AN|AN OVER AN|AN THREE TIMES",
    "12030 CUNEIFORM SIGN AN PLUS NAGA |OPPOSING AN PLUS NAGA|SQUARED",
    "12032 CUNEIFORM SIGN |ANSHE|APIN|ARAD|ARAD TIMES KUR|ARKAB|ASAL2|ASH",
    "12039 CUNEIFORM SIGN ASH |ZIDA TENU|KABA TENU|OVER ASH TUG2 OVER TUG2 TUG2 OVER TUG2 PAP",
    "1203c CUNEIFORM SIGN ASH OVER ASH OVER |ASH|ASH CROSSING ASH OVER ASH OVER ASH",
    "1203e CUNEIFORM SIGN |ASH2|ASHGAB|BA|BAD|BAG3|BAHAR2|BAL|BAL OVER BAL|BALAG|BAR",
    "12048 CUNEIFORM SIGN |BARA2|BI|BI TIMES A|BI TIMES GAR|BI TIMES IGI GUNU|BU|BU OVER BU AB",
    "1204f CUNEIFORM SIGN |BU OVER BU UN|BU CROSSING BU|BULUG|BULUG OVER BULUG|BUR|BUR2|DA|DAG",
    "12057 CUNEIFORM SIGN DAG KISIM5 TIMES |A PLUS MASH|AMAR|BALAG|BI|GA|GA PLUS MASH",
    "1205d CUNEIFORM SIGN DAG KISIM5 TIMES |GI|GIR2|GUD|HA|IR|IR PLUS LU|KAK|LA|LU|LU PLUS MASH2",
    "12067 CUNEIFORM SIGN DAG KISIM5 TIMES |LUM|NE|PAP PLUS PAP|SI|TAK4|U2 PLUS GIR2|USH",
    "1206e CUNEIFORM SIGN |DAM|DAR|DARA3|DARA4|DI|DIB|DIM|DIM TIMES SHE",
    "12076 CUNEIFORM SIGN |DIM2|DIN|DIN KASKAL U GUNU DISH|DISH|DU|DU OVER DU|DU GUNU",
    "1207d CUNEIFORM SIGN |DU SHESHIG|DUB|DUB TIMES ESH2|DUB2|DUG|DUGUD|DUH|DUN|DUN3|DUN3 GUNU",
    "12087 CUNEIFORM SIGN |DUN3 GUNU GUNU|DUN4|DUR2|E|E TIMES PAP|E OVER E NUN OVER NUN|E2",
    "1208e CUNEIFORM SIGN E2 TIMES |A PLUS HA PLUS DA|GAR|MI|SAL|SHE|U",
    "12094 CUNEIFORM SIGN |EDIN|EGIR|EL|EN|EN TIMES GAN2|EN TIMES GAN2 TENU|EN TIMES ME",
    "1209b CUNEIFORM SIGN |EN CROSSING EN|EN OPPOSING EN|EN SQUARED|EREN|ERIN2|ESH2|EZEN",
    "120a2 CUNEIFORM SIGN EZEN TIMES |A|A PLUS LAL|A PLUS LAL TIMES LAL",
    "120a5 CUNEIFORM SIGN EZEN TIMES |AN|BAD|DUN3 GUNU|DUN3 GUNU GUNU|HA|HA GUNU|IGI GUNU",
    "120ac CUNEIFORM SIGN EZEN TIMES |KASKAL|KASKAL SQUARED|KU3|LA|LAL TIMES LAL|LI|LU|U2|UD",
    "120b5 CUNEIFORM SIGN |GA|GA GUNU|GA2|GA2 TIMES A PLUS DA PLUS HA",
    "120b9 CUNEIFORM SIGN GA2 TIMES |A PLUS HA|A PLUS IGI|AB2 TENU PLUS TAB|AN|ASH|ASH2 PLUS GAL",
    "120bf CUNEIFORM SIGN GA2 TIMES |BAD|BAR PLUS RA|BUR|BUR PLUS RA|DA|DI|DIM TIMES SHE",
    "120c6 CUNEIFORM SIGN GA2 TIMES |DUB|EL|EL PLUS LA|EN|EN TIMES GAN2 TENU|GAN2 TENU|GAR|GI|GI4",
    "120cf CUNEIFORM SIGN GA2 TIMES |GI4 PLUS A|GIR2 PLUS SU|HA PLUS LU PLUS ESH2|HAL|HAL PLUS LA",
    "120d4 CUNEIFORM SIGN GA2 TIMES |HI PLUS LI|HUB2|IGI GUNU|ISH PLUS HU PLUS ASH|KAK|KASKAL|KID",
    "120db CUNEIFORM SIGN GA2 TIMES |KID PLUS LAL|KU3 PLUS AN|LA|ME PLUS EN|MI|NUN|NUN OVER NUN",
    "120e2 CUNEIFORM SIGN GA2 TIMES |PA|SAL|SAR|SHE|SHE PLUS TUR|SHID|SUM|TAK4|U|UD|UD PLUS DU",
    "120ed CUNEIFORM SIGN |GA2 OVER GA2|GABA|GABA CROSSING GABA|GAD",
    "120f1 CUNEIFORM SIGN |GAD OVER GAD GAR OVER GAR|GAL|GAL GAD OVER GAD GAR OVER GAR|GALAM|GAM",
    "120f6 CUNEIFORM SIGN |GAN|GAN2|GAN2 TENU|GAN2 OVER GAN2|GAN2 CROSSING GAN2|GAR|GAR3|GASHAN",
    "120fe CUNEIFORM SIGN |GESHTIN|GESHTIN TIMES KUR|GI|GI TIMES E|GI TIMES U|GI CROSSING GI",
    "12104 CUNEIFORM SIGN |GI4|GI4 OVER GI4|GI4 CROSSING GI4|GIDIM|GIR2|GIR2 GUNU|GIR3",
    "1210b CUNEIFORM SIGN GIR3 TIMES |A PLUS IGI|GAN2 TENU|IGI|LU PLUS IGI|PA",
    "12110 CUNEIFORM SIGN |GISAL|GISH|GISH CROSSING GISH",
    "12113 CUNEIFORM SIGN |GISH TIMES BAD|GISH TIMES TAK4|GISH TENU|GU|GU CROSSING GU|GU2",
    "12119 CUNEIFORM SIGN GU2 TIMES |KAK|KAK TIMES IGI GUNU|NUN|SAL PLUS TUG2",
    "1211d CUNEIFORM SIGN |GU2 GUNU|GUD|GUD TIMES A PLUS KUR|GUD TIMES KUR|GUD OVER GUD LUGAL",
    "12122 CUNEIFORM SIGN |GUL|GUM|GUM TIMES SHE|GUR|GUR7|GURUN|GURUSH|HA|HA TENU|HA GUNU|HAL|HI",
    "1212e CUNEIFORM SIGN HI TIMES |ASH|ASH2|BAD|DISH|GAD|KIN|NUN|SHE|U",
    "12137 CUNEIFORM SIGN |HU|HUB2",
    "12139 CUNEIFORM SIGN HUB2 TIMES |AN|HAL|KASKAL|LISH|UD",
    "1213e CUNEIFORM SIGN |HUL2|I|I A|IB|IDIM|IDIM OVER IDIM BUR|IDIM OVER IDIM SQUARED|IG|IGI",
    "12147 CUNEIFORM SIGN IGI |DIB|RI|OVER IGI SHIR OVER SHIR UD OVER UD|GUNU",
    "1214b CUNEIFORM SIGN |IL|IL TIMES GAN2 TENU|IL2|IM|IM TIMES TAK4",
    "12150 CUNEIFORM SIGN |IM CROSSING IM|IM OPPOSING IM|IM SQUARED|IMIN|IN|IR|ISH|KA",
    "12158 CUNEIFORM SIGN KA TIMES |A|AD|AD PLUS KU3|ASH2|BAD|BALAG|BAR|BI|ERIN2|ESH2|GA",
    "12163 CUNEIFORM SIGN KA TIMES |GAL|GAN2 TENU|GAR|GAR PLUS SHA3 PLUS A|GI|GIR2|GISH PLUS SAR",
    "1216a CUNEIFORM SIGN KA TIMES |GISH CROSSING GISH|GU|GUR7|IGI|IM|KAK|KI|KID|LI|LU|ME",
    "12175 CUNEIFORM SIGN KA TIMES ME PLUS |DU|GI|TE",
    "12178 CUNEIFORM SIGN KA TIMES |MI|MI PLUS NUNUZ|NE|NUN|PI|RU|SA|SAR",
    "12180 CUNEIFORM SIGN KA TIMES |SHA|SHE|SHID|SHU|SIG|SUHUR|TAR|U|U2|UD|UMUM TIMES PA|USH|ZI",
    "1218d CUNEIFORM SIGN |KA2|KA2 CROSSING KA2|KAB|KAD2|KAD3|KAD4|KAD5|KAD5 OVER KAD5",
    "12195 CUNEIFORM SIGN |KAK|KAK TIMES IGI GUNU|KAL|KAL TIMES BAD|KAL CROSSING KAL",
    "1219a CUNEIFORM SIGN |KAM2|KAM4|KASKAL|KASKAL LAGAB TIMES U OVER LAGAB TIMES U",
    "1219e CUNEIFORM SIGN |KASKAL OVER KASKAL LAGAB TIMES U OVER LAGAB TIMES U|KESH2|KI",
    "121a1 CUNEIFORM SIGN KI TIMES |BAD|U|UD",
    "121a4 CUNEIFORM SIGN |KID|KIN|KISAL|KISH|KISIM5|KISIM5 OVER KISIM5|KU",
    "121ab CUNEIFORM SIGN |KU OVER HI TIMES ASH2 KU OVER HI TIMES ASH2|KU3|KU4|KU4 VARIANT FORM",
    "121af CUNEIFORM SIGN |KU7|KUL|KUL GUNU|KUN|KUR|KUR OPPOSING KUR|KUSHU2|KWU318|LA|LAGAB",
    "121b9 CUNEIFORM SIGN LAGAB TIMES |A|A PLUS DA PLUS HA",
    "121bb CUNEIFORM SIGN LAGAB TIMES |A PLUS GAR|A PLUS LAL|AL|AN|ASH ZIDA TENU|BAD|BI|DAR",
    "121c3 CUNEIFORM SIGN LAGAB TIMES |EN|GA|GAR|GUD|GUD PLUS GUD|HA|HAL|HI TIMES NUN|IGI GUNU",
    "121cc CUNEIFORM SIGN LAGAB TIMES |IM|IM PLUS HA|IM PLUS LU|KI|KIN|KU3|KUL|KUL PLUS HI PLUS A",
    "121d4 CUNEIFORM SIGN LAGAB TIMES |LAGAB|LISH|LU|LUL|ME|ME PLUS EN|MUSH|NE|SHE PLUS SUM",
    "121dd CUNEIFORM SIGN LAGAB TIMES SHITA PLUS GISH |PLUS ERIN2|TENU",
    "121df CUNEIFORM SIGN LAGAB TIMES |SHU2|SHU2 PLUS SHU2|SUM|TAG|TAK4|TE PLUS A PLUS SU PLUS NA",
    "121e5 CUNEIFORM SIGN LAGAB TIMES |U|U PLUS A|U PLUS U PLUS U|U2 PLUS ASH|UD|USH",
    "121eb CUNEIFORM SIGN |LAGAB SQUARED|LAGAR",
    "121ed CUNEIFORM SIGN LAGAR |TIMES SHE|TIMES SHE PLUS SUM|GUNU|GUNU OVER LAGAR GUNU SHE",
    "121f1 CUNEIFORM SIGN |LAHSHU|LAL|LAL TIMES LAL|LAM|LAM TIMES KUR",
    "121f6 CUNEIFORM SIGN |LAM TIMES KUR PLUS RU|LI|LIL|LIMMU2|LISH|LU|LU TIMES BAD|LU2",
    "121fe CUNEIFORM SIGN LU2 TIMES |AL|BAD|ESH2|ESH2 TENU|GAN2 TENU",
    "12203 CUNEIFORM SIGN LU2 TIMES |HI TIMES BAD|IM|KAD2|KAD3|KAD3 PLUS ASH|KI|LA PLUS ASH",
    "1220a CUNEIFORM SIGN LU2 TIMES |LAGAB|ME PLUS EN|NE|NU|SI PLUS ASH|SIK2 PLUS BU|TUG2",
    "12211 CUNEIFORM SIGN LU2 |TENU|CROSSING LU2|OPPOSING LU2|SQUARED|SHESHIG",
    "12216 CUNEIFORM SIGN |LU3|LUGAL|LUGAL OVER LUGAL|LUGAL OPPOSING LUGAL|LUGAL SHESHIG|LUH|LUL",
    "1221d CUNEIFORM SIGN |LUM|LUM OVER LUM|LUM OVER LUM GAR OVER GAR|MA|MA TIMES TAK4|MA GUNU",
    "12223 CUNEIFORM SIGN |MA2|MAH|MAR|MASH|MASH2|ME|MES|MI|MIN|MU|MU OVER MU|MUG|MUG GUNU|MUNSUB",
    "12231 CUNEIFORM SIGN |MURGU2|MUSH|MUSH TIMES A|MUSH TIMES KUR|MUSH TIMES ZA|MUSH OVER MUSH",
    "12237 CUNEIFORM SIGN |MUSH OVER MUSH TIMES A PLUS NA|MUSH CROSSING MUSH|MUSH3|MUSH3 TIMES A",
    "1223b CUNEIFORM SIGN |MUSH3 TIMES A PLUS DI|MUSH3 TIMES DI|MUSH3 GUNU|NA|NA2|NAGA",
    "12241 CUNEIFORM SIGN |NAGA INVERTED|NAGA TIMES SHU TENU|NAGA OPPOSING NAGA|NAGAR|NAM NUTILLU",
    "12246 CUNEIFORM SIGN |NAM|NAM2|NE|NE TIMES A|NE TIMES UD|NE SHESHIG|NI|NI TIMES E",
    "1224e CUNEIFORM SIGN |NI2|NIM|NIM TIMES GAN2 TENU|NIM TIMES GAR PLUS GAN2 TENU|NINDA2",
    "12253 CUNEIFORM SIGN NINDA2 TIMES |AN|ASH|ASH PLUS ASH|GUD|ME PLUS GAN2 TENU|NE|NUN|SHE",
    "1225b CUNEIFORM SIGN NINDA2 TIMES SHE PLUS |A AN|ASH|ASH PLUS ASH",
    "1225e CUNEIFORM SIGN |NINDA2 TIMES U2 PLUS ASH|NINDA2 TIMES USH|NISAG|NU|NU11|NUN",
    "12264 CUNEIFORM SIGN NUN LAGAR TIMES |GAR|MASH|SAL|SAL OVER NUN LAGAR TIMES SAL|USH",
    "12269 CUNEIFORM SIGN NUN |TENU|OVER NUN|CROSSING NUN|CROSSING NUN LAGAR OVER LAGAR",
    "1226d |CUNEIFORM SIGN NUNUZ",
    "1226e CUNEIFORM SIGN NUNUZ AB2 TIMES |ASHGAB|BI|DUG|GUD|IGI GUNU|KAD3|LA|NE|SILA3|U2",
    "12278 CUNEIFORM SIGN |NUNUZ KISIM5 TIMES BI|NUNUZ KISIM5 TIMES BI U|PA|PAD|PAN|PAP|PESH2|PI",
    "12280 CUNEIFORM SIGN PI TIMES |A|AB|BI|BU|E|I|IB|U|U2",
    "12289 CUNEIFORM SIGN |PI CROSSING PI|PIRIG|PIRIG TIMES KAL|PIRIG TIMES UD",
    "1228d CUNEIFORM SIGN |PIRIG TIMES ZA|PIRIG OPPOSING PIRIG|RA|RAB|RI|RU|SA|SAG NUTILLU|SAG",
    "12296 CUNEIFORM SIGN SAG TIMES |A|DU|DUB|HA|KAK|KUR|LUM|MI|NUN|SAL|SHID|TAB|U2|UB|UM|UR|USH",
    "122a7 CUNEIFORM SIGN |SAG OVER SAG|SAG GUNU|SAL|SAL LAGAB TIMES ASH2|SANGA2|SAR|SHA|SHA3",
    "122af CUNEIFORM SIGN SHA3 TIMES |A|BAD|GISH|NE|SHU2|TUR|U|U PLUS A",
    "122b7 CUNEIFORM SIGN |SHA6|SHAB6|SHAR2|SHE|SHE HU",
    "122bc CUNEIFORM SIGN SHE OVER SHE |GAD OVER GAD GAR OVER GAR|TAB OVER TAB GAR OVER GAR",
    "122be CUNEIFORM SIGN |SHEG9|SHEN|SHESH|SHESH2|SHESHLAM|SHID|SHID TIMES A|SHID TIMES IM|SHIM",
    "122c7 CUNEIFORM SIGN SHIM TIMES |A|BAL|BULUG|DIN|GAR|IGI|IGI GUNU|KUSHU2|LUL|MUG|SAL",
    "122d2 CUNEIFORM SIGN |SHINIG|SHIR|SHIR TENU|SHIR OVER SHIR BUR OVER BUR",
    "122d6 CUNEIFORM SIGN |SHITA|SHU|SHU OVER INVERTED SHU|SHU2|SHUBUR",
    "122db CUNEIFORM SIGN |SI|SI GUNU|SIG|SIG4|SIG4 OVER SIG4 SHU2|SIK2|SILA3|SU|SU OVER SU|SUD",
    "122e5 CUNEIFORM SIGN |SUD2|SUHUR|SUM|SUMASH|SUR|SUR9|TA|TA ASTERISK|TA TIMES HI|TA TIMES MI",
    "122ef CUNEIFORM SIGN |TA GUNU|TAB|TAB OVER TAB NI OVER NI DISH OVER DISH|TAB SQUARED|TAG",
    "122f4 CUNEIFORM SIGN TAG TIMES |BI|GUD|SHE|SHU|TUG2|UD",
    "122fa CUNEIFORM SIGN |TAK4|TAR|TE|TE GUNU|TI|TI TENU|TIL|TIR|TIR TIMES TAK4",
    "12303 CUNEIFORM SIGN TIR OVER |TIR|TIR GAD OVER GAD GAR OVER GAR",
    "12305 CUNEIFORM SIGN |TU|TUG2|TUK|TUM|TUR|TUR OVER TUR ZA OVER ZA|U|U GUD|U U U",
    "1230e CUNEIFORM SIGN U OVER U |PA OVER PA GAR OVER GAR|SUR OVER SUR",
    "12310 CUNEIFORM SIGN |U OVER U U REVERSED OVER U REVERSED|U2|UB|UD|UD KUSHU2",
    "12315 CUNEIFORM SIGN UD TIMES |BAD|MI|U PLUS U PLUS U|U PLUS U PLUS U GUNU",
    "12319 CUNEIFORM SIGN |UD GUNU|UD SHESHIG|UD SHESHIG TIMES BAD|UDUG|UM",
    "1231e CUNEIFORM SIGN UM TIMES |LAGAB|ME PLUS DA|SHA3|U",
    "12322 CUNEIFORM SIGN |UMBIN|UMUM|UMUM TIMES KASKAL",
    "12325 CUNEIFORM SIGN |UMUM TIMES PA|UN|UN GUNU|UR|UR CROSSING UR|UR SHESHIG|UR2",
    "1232c CUNEIFORM SIGN UR2 TIMES |A PLUS HA|A PLUS NA|AL|HA|NUN|U2|U2 PLUS ASH|U2 PLUS BI",
    "12334 CUNEIFORM SIGN |UR4|URI|URI3|URU",
    "12338 CUNEIFORM SIGN URU TIMES |A|ASHGAB|BAR|DUN|GA|GAL|GAN2 TENU|GAR|GU",
    "12341 CUNEIFORM SIGN URU TIMES |HA|IGI|IM|ISH|KI|LUM|MIN|PA|SHE|SIG4|TU|U PLUS GUD|UD|URUDA",
    "1234f CUNEIFORM SIGN |URUDA|URUDA TIMES U|USH",
    "12352 CUNEIFORM SIGN USH TIMES |A|KU|KUR|TAK4",
    "12356 CUNEIFORM SIGN |USHX|USH2|USHUMX|UTUKI|UZ3|UZ3 TIMES KASKAL",
    "1235c CUNEIFORM SIGN |UZU|ZA|ZA TENU|ZA SQUARED TIMES KUR|ZAG|ZAMX|ZE2|ZI|ZI OVER ZI|ZI3",
    "12366 CUNEIFORM SIGN |ZIB|ZIB KABA TENU|ZIG|ZIZ2|ZU|ZU5|ZU5 TIMES A|ZUBUR|ZUM|KAP ELAMITE",
    "12370 CUNEIFORM SIGN |AB TIMES NUN|AB2 TIMES A|AMAR TIMES KUG|DAG KISIM5 TIMES U2 PLUS MASH",
    "12374 CUNEIFORM SIGN |DAG3|DISH PLUS SHU|DUB TIMES SHE|EZEN TIMES GUD|EZEN TIMES SHE",
    "12379 CUNEIFORM SIGN |GA2 TIMES AN PLUS KAK PLUS A|GA2 TIMES ASH2|GE22|GIG|HUSH",
    "1237e CUNEIFORM SIGN KA TIMES |ANSHE|ASH3|GISH|GUD|HI TIMES ASH2|LUM|PA|SHUL|TU|UR2",
    "12388 CUNEIFORM SIGN |LAGAB TIMES GI|LU2 SHESHIG TIMES BAD",
    "1238a CUNEIFORM SIGN |LU2 TIMES ESH2 PLUS LAL|LU2 TIMES SHU|MESH|MUSH3 TIMES ZA|NA4",
    "1238f CUNEIFORM SIGN |NIN|NIN9|NINDA2 TIMES BAL|NINDA2 TIMES GI|NU11 ROTATED NINETY DEGREES",
    "12394 CUNEIFORM SIGN |PESH2 ASTERISK|PIR2|SAG TIMES IGI GUNU|TI2|UM TIMES ME|U U",
    "12400 CUNEIFORM NUMERIC SIGN |TWO ASH|THREE ASH",
    "12402 CUNEIFORM NUMERIC SIGN |FOUR ASH|FIVE ASH|SIX ASH|SEVEN ASH|EIGHT ASH|NINE ASH",
    "12408 CUNEIFORM NUMERIC SIGN |THREE DISH|FOUR DISH|FIVE DISH|SIX DISH|SEVEN DISH|EIGHT DISH",
    "1240e CUNEIFORM NUMERIC SIGN |NINE DISH|FOUR U|FIVE U|SIX U|SEVEN U|EIGHT U|NINE U|ONE GESH2",
    "12416 CUNEIFORM NUMERIC SIGN |TWO GESH2|THREE GESH2|FOUR GESH2|FIVE GESH2|SIX GESH2",
    "1241b CUNEIFORM NUMERIC SIGN |SEVEN GESH2|EIGHT GESH2|NINE GESH2|ONE GESHU|TWO GESHU",
    "12420 CUNEIFORM NUMERIC SIGN |THREE GESHU|FOUR GESHU|FIVE GESHU|TWO SHAR2|THREE SHAR2",
    "12425 CUNEIFORM NUMERIC SIGN |THREE SHAR2 VARIANT FORM|FOUR SHAR2|FIVE SHAR2|SIX SHAR2",
    "12429 CUNEIFORM NUMERIC SIGN |SEVEN SHAR2|EIGHT SHAR2|NINE SHAR2|ONE SHARU|TWO SHARU",
    "1242e CUNEIFORM NUMERIC SIGN |THREE SHARU|THREE SHARU VARIANT FORM|FOUR SHARU|FIVE SHARU",
    "12432 CUNEIFORM NUMERIC SIGN SHAR2 TIMES GAL PLUS |DISH|MIN",
    "12434 CUNEIFORM NUMERIC SIGN |ONE BURU|TWO BURU|THREE BURU|THREE BURU VARIANT FORM|FOUR BURU",
    "12439 CUNEIFORM NUMERIC SIGN |FIVE BURU|THREE VARIANT FORM ESH16|THREE VARIANT FORM ESH21",
    "1243c CUNEIFORM NUMERIC SIGN FOUR VARIANT FORM |LIMMU|LIMMU4|LIMMU A|LIMMU B",
    "12440 |CUNEIFORM NUMERIC SIGN SIX VARIANT FORM ASH9",
    "12441 CUNEIFORM NUMERIC SIGN SEVEN VARIANT FORM |IMIN3|IMIN A|IMIN B",
    "12444 CUNEIFORM NUMERIC SIGN EIGHT VARIANT FORM |USSU|USSU3",
    "12446 CUNEIFORM NUMERIC SIGN NINE VARIANT FORM |ILIMMU|ILIMMU3|ILIMMU4|ILIMMU A",
    "1244a CUNEIFORM NUMERIC SIGN |TWO ASH TENU|THREE ASH TENU|FOUR ASH TENU|FIVE ASH TENU",
    "1244e CUNEIFORM NUMERIC SIGN |SIX ASH TENU|ONE BAN2|TWO BAN2|THREE BAN2|FOUR BAN2",
    "12453 CUNEIFORM NUMERIC SIGN |FOUR BAN2 VARIANT FORM|FIVE BAN2|FIVE BAN2 VARIANT FORM",
    "12456 CUNEIFORM NUMERIC SIGN |NIGIDAMIN|NIGIDAESH|ONE ESHE3|TWO ESHE3|ONE THIRD DISH",
    "1245b CUNEIFORM NUMERIC SIGN |TWO THIRDS DISH|FIVE SIXTHS DISH|ONE THIRD VARIANT FORM A",
    "1245e CUNEIFORM NUMERIC SIGN |TWO THIRDS VARIANT FORM A|ONE EIGHTH ASH|ONE QUARTER ASH",
    "12461 CUNEIFORM NUMERIC SIGN OLD ASSYRIAN ONE |SIXTH|QUARTER",
    "12463 CUNEIFORM NUMERIC SIGN ONE |QUARTER GUR|HALF GUR",
    "12465 CUNEIFORM NUMERIC SIGN ELAMITE |ONE THIRD|TWO THIRDS|FORTY|FIFTY",
    "12469 CUNEIFORM NUMERIC SIGN |FOUR U VARIANT FORM|FIVE U VARIANT FORM|SIX U VARIANT FORM",
    "1246c CUNEIFORM NUMERIC SIGN |SEVEN U VARIANT FORM|EIGHT U VARIANT FORM|NINE U VARIANT FORM",
    "12470 CUNEIFORM PUNCTUATION SIGN |OLD ASSYRIAN WORD DIVIDER|VERTICAL COLON",
    "12472 CUNEIFORM PUNCTUATION SIGN DIAGONAL |COLON|TRICOLON|QUADCOLON",
    "12480 CUNEIFORM SIGN |AB TIMES NUN TENU|AB TIMES SHU2|AD TIMES ESH2|BAD TIMES DISH TENU",
    "12484 CUNEIFORM SIGN BAHAR2 TIMES |AB2|NI|ZA",
    "12487 CUNEIFORM SIGN |BU OVER BU TIMES NA2|DA TIMES TAK4",
    "12489 CUNEIFORM SIGN |DAG TIMES KUR|DIM TIMES IGI|DIM TIMES U U U|DIM2 TIMES UD",
    "1248d CUNEIFORM SIGN DUG TIMES |ANSHE|ASH|ASH AT LEFT|DIN|DUN|ERIN2|GA|GI|GIR2 GUNU|GISH|HA",
    "12498 CUNEIFORM SIGN DUG TIMES |HI|IGI GUNU|KASKAL|KUR|KUSHU2|KUSHU2 PLUS KASKAL|LAK-020|LAM",
    "124a0 CUNEIFORM SIGN DUG TIMES |LAM TIMES KUR|LUH PLUS GISH|MASH|MES|MI|NI|PI|SHE|SI GUNU",
    "124a9 CUNEIFORM SIGN |E2 TIMES KUR|E2 TIMES PAP|ERIN2 X|ESH2 CROSSING ESH2",
    "124ad CUNEIFORM SIGN EZEN SHESHIG TIMES |ASH|HI|IGI GUNU|LA|LAL|ME|MES|SU",
    "124b5 |CUNEIFORM SIGN EZEN TIMES SU",
    "124b6 CUNEIFORM SIGN GA2 TIMES |BAHAR2|DIM GUNU|DUG TIMES IGI GUNU|DUG TIMES KASKAL|EREN",
    "124bb CUNEIFORM SIGN GA2 TIMES |GA|GAR PLUS DI|GAR PLUS NE|HA PLUS A|KUSHU2 PLUS KASKAL|LAM",
    "124c1 CUNEIFORM SIGN GA2 TIMES |LAM TIMES KUR|LUH|MUSH|NE|NE PLUS E2|NE PLUS GI|SHIM|ZIZ2",
    "124c9 |CUNEIFORM SIGN GABA ROTATED NINETY DEGREES",
    "124ca CUNEIFORM SIGN |GESHTIN TIMES U|GISH TIMES GISH CROSSING GISH|GU2 TIMES IGI GUNU",
    "124cd CUNEIFORM SIGN |GUD PLUS GISH TIMES TAK4|HA TENU GUNU|HI TIMES ASH OVER HI TIMES ASH",
    "124d0 CUNEIFORM SIGN KA TIMES |BU|KA|U U U|UR",
    "124d4 CUNEIFORM SIGN |LAGAB TIMES ZU OVER ZU|LAK-003|LAK-021",
    "124d7 CUNEIFORM SIGN |LAK-025|LAK-030|LAK-050|LAK-051|LAK-062|LAK-079 OVER LAK-079 GUNU",
    "124dd CUNEIFORM SIGN |LAK-080|LAK-081 OVER LAK-081|LAK-092|LAK-130|LAK-142",
    "124e2 CUNEIFORM SIGN |LAK-210|LAK-219|LAK-220|LAK-225|LAK-228|LAK-238|LAK-265|LAK-266",
    "124ea CUNEIFORM SIGN |LAK-343|LAK-347|LAK-348|LAK-383|LAK-384|LAK-390|LAK-441|LAK-449",
    "124f2 CUNEIFORM SIGN LAK-449 TIMES |GU|IGI|PAP PLUS LU3|PAP PLUS PAP PLUS LU3|U2 PLUS BA",
    "124f7 CUNEIFORM SIGN |LAK-450|LAK-457|LAK-470",
    "124fa CUNEIFORM SIGN |LAK-483|LAK-490|LAK-492|LAK-493|LAK-495|LAK-550|LAK-608|LAK-617",
    "12502 CUNEIFORM SIGN LAK-617 TIMES |ASH|BAD|DUN3 GUNU GUNU|KU3|LA|TAR|TE|U2|UD|URUDA",
    "1250c CUNEIFORM SIGN |LAK-636|LAK-648|LAK-648 TIMES DUB|LAK-648 TIMES GA",
    "12510 CUNEIFORM SIGN LAK-648 TIMES |IGI|IGI GUNU|NI|PAP PLUS PAP PLUS LU3|SHESH PLUS KI|UD",
    "12516 CUNEIFORM SIGN |LAK-648 TIMES URUDA|LAK-724|LAK-749|LU2 GUNU TIMES ASH",
    "1251a CUNEIFORM SIGN LU2 TIMES |DISH|HAL|PAP|PAP PLUS PAP PLUS LU3|TAK4",
    "1251f CUNEIFORM SIGN |MI PLUS ZA7|MUSH OVER MUSH TIMES GA|MUSH OVER MUSH TIMES KAK",
    "12522 CUNEIFORM SIGN NINDA2 TIMES |DIM GUNU|GISH",
    "12524 CUNEIFORM SIGN NINDA2 TIMES |GUL|HI|KESH2|LAK-050|MASH|PAP PLUS PAP|U|U PLUS U|URUDA",
    "1252d CUNEIFORM SIGN SAG |GUNU TIMES HA|TIMES EN|TIMES SHE AT LEFT|TIMES TAK4",
    "12531 CUNEIFORM SIGN |SHA6 TENU|SHE OVER SHE|SHE PLUS HUB2|SHE PLUS NAM2|SHE PLUS SAR",
    "12536 CUNEIFORM SIGN SHU2 PLUS |DUG TIMES NI|E2 TIMES AN",
    "12538 CUNEIFORM SIGN |SI TIMES TAK4|TAK4 PLUS SAG|TUM TIMES GAN2 TENU|TUM TIMES THREE DISH",
    "1253c CUNEIFORM SIGN |UR2 INVERTED|UR2 TIMES UD|URU TIMES DARA3|URU TIMES LAK-668",
    "12540 CUNEIFORM SIGN |URU TIMES LU3|ZA7|ZU OVER ZU PLUS SAR|ZU5 TIMES THREE DISH TENU",
    "12f90 CYPRO-MINOAN SIGN |CM001|CM002|CM004|CM005|CM006|CM007|CM008|CM009|CM010|CM011|CM012",
    "12f9b CYPRO-MINOAN SIGN |CM012B|CM013|CM015|CM017|CM019|CM021|CM023|CM024|CM025|CM026|CM027",
    "12fa6 CYPRO-MINOAN SIGN |CM028|CM029|CM030|CM033|CM034|CM035|CM036|CM037|CM038|CM039|CM040",
    "12fb1 CYPRO-MINOAN SIGN |CM041|CM044|CM046|CM047|CM049|CM050|CM051|CM052|CM053|CM054|CM055",
    "12fbc CYPRO-MINOAN SIGN |CM056|CM058|CM059|CM060|CM061|CM062|CM063|CM064|CM066|CM067|CM068",
    "12fc7 CYPRO-MINOAN SIGN |CM069|CM070|CM071|CM072|CM073|CM074|CM075|CM075B|CM076|CM078|CM079",
    "12fd2 CYPRO-MINOAN SIGN |CM080|CM081|CM082|CM083|CM084|CM085|CM086|CM087|CM088|CM089|CM090",
    "12fdd CYPRO-MINOAN SIGN |CM091|CM092|CM094|CM095|CM096|CM097|CM098|CM099|CM100|CM101|CM102",
    "12fe8 CYPRO-MINOAN SIGN |CM103|CM104|CM105|CM107|CM108|CM109|CM110|CM112|CM114|CM301|CM302"]

end Name
end Text
end DebugIndex
