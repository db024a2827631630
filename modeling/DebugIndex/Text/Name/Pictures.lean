/-!
# The names of hieroglyphs and the scripts that follow them

The names that Unicode 14 gives to the code points from U+13000 to U+1AFFE.  A row
begins with its first code point and what its names have in common; the endings
of the names of that point and those behind it follow, each after a bar.
-/

namespace DebugIndex
namespace Text
namespace Name

/-- The rows of the table, in ascending order. -/
def picturesRows : List String :=
  ["13000 EGYPTIAN HIEROGLYPH |A001|A002|A003|A004|A005|A005A",
    "13006 EGYPTIAN HIEROGLYPH |A006|A006A|A006B|A007|A008|A009|A010|A011|A012|A013|A014|A014A",
    "13012 EGYPTIAN HIEROGLYPH |A015|A016|A017|A017A|A018|A019|A020|A021|A022|A023|A024|A025",
    "1301e EGYPTIAN HIEROGLYPH |A026|A027|A028|A029|A030|A031|A032|A032A|A033|A034|A035|A036|A037",
    "1302b EGYPTIAN HIEROGLYPH |A038|A039|A040|A040A|A041|A042|A042A|A043|A043A|A044|A045|A045A",
    "13037 EGYPTIAN HIEROGLYPH |A046|A047|A048|A049|A050|A051|A052|A053|A054|A055|A056|A057|A058",
    "13044 EGYPTIAN HIEROGLYPH |A059|A060|A061|A062|A063|A064|A065|A066|A067|A068|A069|A070|B001",
    "13051 EGYPTIAN HIEROGLYPH |B002|B003|B004|B005|B005A|B006|B007|B008|B009|C001|C002|C002A",
    "1305d EGYPTIAN HIEROGLYPH |C002B|C002C|C003|C004|C005|C006|C007|C008|C009|C010|C010A|C011",
    "13069 EGYPTIAN HIEROGLYPH |C012|C013|C014|C015|C016|C017|C018|C019|C020|C021|C022|C023|C024",
    "13076 EGYPTIAN HIEROGLYPH |D001|D002|D003|D004|D005|D006|D007|D008|D008A|D009|D010|D011|D012",
    "13083 EGYPTIAN HIEROGLYPH |D013|D014|D015|D016|D017|D018|D019|D020|D021|D022|D023|D024|D025",
    "13090 EGYPTIAN HIEROGLYPH |D026|D027|D027A|D028|D029|D030|D031|D031A|D032|D033|D034|D034A",
    "1309c EGYPTIAN HIEROGLYPH |D035|D036|D037|D038|D039|D040|D041|D042|D043|D044|D045|D046|D046A",
    "130a9 EGYPTIAN HIEROGLYPH |D047|D048|D048A|D049|D050|D050A|D050B|D050C|D050D|D050E|D050F",
    "130b4 EGYPTIAN HIEROGLYPH |D050G|D050H|D050I|D051|D052|D052A|D053|D054|D054A|D055|D056|D057",
    "130c0 EGYPTIAN HIEROGLYPH |D058|D059|D060|D061|D062|D063|D064|D065|D066|D067|D067A|D067B",
    "130cc EGYPTIAN HIEROGLYPH |D067C|D067D|D067E|D067F|D067G|D067H|E001|E002|E003|E004|E005",
    "130d7 EGYPTIAN HIEROGLYPH |E006|E007|E008|E008A|E009|E009A|E010|E011|E012|E013|E014|E015",
    "130e3 EGYPTIAN HIEROGLYPH |E016|E016A|E017|E017A|E018|E019|E020|E020A|E021|E022|E023|E024",
    "130ef EGYPTIAN HIEROGLYPH |E025|E026|E027|E028|E028A|E029|E030|E031|E032|E033|E034|E034A",
    "130fb EGYPTIAN HIEROGLYPH |E036|E037|E038|F001|F001A|F002|F003|F004|F005|F006|F007|F008|F009",
    "13108 EGYPTIAN HIEROGLYPH |F010|F011|F012|F013|F013A|F014|F015|F016|F017|F018|F019|F020|F021",
    "13115 EGYPTIAN HIEROGLYPH |F021A|F022|F023|F024|F025|F026|F027|F028|F029|F030|F031|F031A",
    "13121 EGYPTIAN HIEROGLYPH |F032|F033|F034|F035|F036|F037|F037A|F038|F038A|F039|F040|F041",
    "1312d EGYPTIAN HIEROGLYPH |F042|F043|F044|F045|F045A|F046|F046A|F047|F047A|F048|F049|F050",
    "13139 EGYPTIAN HIEROGLYPH |F051|F051A|F051B|F051C|F052|F053|G001|G002|G003|G004|G005|G006",
    "13145 EGYPTIAN HIEROGLYPH |G006A|G007|G007A|G007B|G008|G009|G010|G011|G011A|G012|G013|G014",
    "13151 EGYPTIAN HIEROGLYPH |G015|G016|G017|G018|G019|G020|G020A|G021|G022|G023|G024|G025|G026",
    "1315e EGYPTIAN HIEROGLYPH |G026A|G027|G028|G029|G030|G031|G032|G033|G034|G035|G036|G036A",
    "1316a EGYPTIAN HIEROGLYPH |G037|G037A|G038|G039|G040|G041|G042|G043|G043A|G044|G045|G045A",
    "13176 EGYPTIAN HIEROGLYPH |G046|G047|G048|G049|G050|G051|G052|G053|G054|H001|H002|H003|H004",
    "13183 EGYPTIAN HIEROGLYPH |H005|H006|H006A|H007|H008|I001|I002|I003|I004|I005|I005A|I006",
    "1318f EGYPTIAN HIEROGLYPH |I007|I008|I009|I009A|I010|I010A|I011|I011A|I012|I013|I014|I015",
    "1319b EGYPTIAN HIEROGLYPH |K001|K002|K003|K004|K005|K006|K007|K008|L001|L002|L002A|L003|L004",
    "131a8 EGYPTIAN HIEROGLYPH |L005|L006|L006A|L007|L008|M001|M001A|M001B|M002|M003|M003A|M004",
    "131b4 EGYPTIAN HIEROGLYPH |M005|M006|M007|M008|M009|M010|M010A|M011|M012|M012A|M012B|M012C",
    "131c0 EGYPTIAN HIEROGLYPH |M012D|M012E|M012F|M012G|M012H|M013|M014|M015|M015A|M016|M016A",
    "131cb EGYPTIAN HIEROGLYPH |M017|M017A|M018|M019|M020|M021|M022|M022A|M023|M024|M024A|M025",
    "131d7 EGYPTIAN HIEROGLYPH |M026|M027|M028|M028A|M029|M030|M031|M031A|M032|M033|M033A|M033B",
    "131e3 EGYPTIAN HIEROGLYPH |M034|M035|M036|M037|M038|M039|M040|M040A|M041|M042|M043|M044|N001",
    "131f0 EGYPTIAN HIEROGLYPH |N002|N003|N004|N005|N006|N007|N008|N009|N010|N011|N012|N013|N014",
    "131fd EGYPTIAN HIEROGLYPH |N015|N016|N017|N018|N018A|N018B|N019|N020|N021|N022|N023|N024",
    "13209 EGYPTIAN HIEROGLYPH |N025|N025A|N026|N027|N028|N029|N030|N031|N032|N033|N033A|N034",
    "13215 EGYPTIAN HIEROGLYPH |N034A|N035|N035A|N036|N037|N037A|N038|N039|N040|N041|N042|NL001",
    "13221 EGYPTIAN HIEROGLYPH |NL002|NL003|NL004|NL005|NL005A|NL006|NL007|NL008|NL009|NL010",
    "1322b EGYPTIAN HIEROGLYPH |NL011|NL012|NL013|NL014|NL015|NL016|NL017|NL017A|NL018|NL019",
    "13235 EGYPTIAN HIEROGLYPH |NL020|NU001|NU002|NU003|NU004|NU005|NU006|NU007|NU008|NU009|NU010",
    "13240 EGYPTIAN HIEROGLYPH |NU010A|NU011|NU011A|NU012|NU013|NU014|NU015|NU016|NU017|NU018",
    "1324a EGYPTIAN HIEROGLYPH |NU018A|NU019|NU020|NU021|NU022|NU022A|O001|O001A|O002|O003|O004",
    "13255 EGYPTIAN HIEROGLYPH |O005|O005A|O006|O006A|O006B|O006C|O006D|O006E|O006F|O007|O008",
    "13260 EGYPTIAN HIEROGLYPH |O009|O010|O010A|O010B|O010C|O011|O012|O013|O014|O015|O016|O017",
    "1326c EGYPTIAN HIEROGLYPH |O018|O019|O019A|O020|O020A|O021|O022|O023|O024|O024A|O025|O025A",
    "13278 EGYPTIAN HIEROGLYPH |O026|O027|O028|O029|O029A|O030|O030A|O031|O032|O033|O033A|O034",
    "13284 EGYPTIAN HIEROGLYPH |O035|O036|O036A|O036B|O036C|O036D|O037|O038|O039|O040|O041|O042",
    "13290 EGYPTIAN HIEROGLYPH |O043|O044|O045|O046|O047|O048|O049|O050|O050A|O050B|O051|P001",
    "1329c EGYPTIAN HIEROGLYPH |P001A|P002|P003|P003A|P004|P005|P006|P007|P008|P009|P010|P011",
    "132a8 EGYPTIAN HIEROGLYPH |Q001|Q002|Q003|Q004|Q005|Q006|Q007|R001|R002|R002A|R003|R003A",
    "132b4 EGYPTIAN HIEROGLYPH |R003B|R004|R005|R006|R007|R008|R009|R010|R010A|R011|R012|R013",
    "132c0 EGYPTIAN HIEROGLYPH |R014|R015|R016|R016A|R017|R018|R019|R020|R021|R022|R023|R024|R025",
    "132cd EGYPTIAN HIEROGLYPH |R026|R027|R028|R029|S001|S002|S002A|S003|S004|S005|S006|S006A",
    "132d9 EGYPTIAN HIEROGLYPH |S007|S008|S009|S010|S011|S012|S013|S014|S014A|S014B|S015|S016",
    "132e5 EGYPTIAN HIEROGLYPH |S017|S017A|S018|S019|S020|S021|S022|S023|S024|S025|S026|S026A",
    "132f1 EGYPTIAN HIEROGLYPH |S026B|S027|S028|S029|S030|S031|S032|S033|S034|S035|S035A|S036",
    "132fd EGYPTIAN HIEROGLYPH |S037|S038|S039|S040|S041|S042|S043|S044|S045|S046|T001|T002|T003",
    "1330a EGYPTIAN HIEROGLYPH |T003A|T004|T005|T006|T007|T007A|T008|T008A|T009|T009A|T010|T011",
    "13316 EGYPTIAN HIEROGLYPH |T011A|T012|T013|T014|T015|T016|T016A|T017|T018|T019|T020|T021",
    "13322 EGYPTIAN HIEROGLYPH |T022|T023|T024|T025|T026|T027|T028|T029|T030|T031|T032|T032A|T033",
    "1332f EGYPTIAN HIEROGLYPH |T033A|T034|T035|T036|U001|U002|U003|U004|U005|U006|U006A|U006B",
    "1333b EGYPTIAN HIEROGLYPH |U007|U008|U009|U010|U011|U012|U013|U014|U015|U016|U017|U018|U019",
    "13348 EGYPTIAN HIEROGLYPH |U020|U021|U022|U023|U023A|U024|U025|U026|U027|U028|U029|U029A",
    "13354 EGYPTIAN HIEROGLYPH |U030|U031|U032|U032A|U033|U034|U035|U036|U037|U038|U039|U040",
    "13360 EGYPTIAN HIEROGLYPH |U041|U042|V001|V001A|V001B|V001C|V001D|V001E|V001F|V001G|V001H",
    "1336b EGYPTIAN HIEROGLYPH |V001I|V002|V002A|V003|V004|V005|V006|V007|V007A|V007B|V008|V009",
    "13377 EGYPTIAN HIEROGLYPH |V010|V011|V011A|V011B|V011C|V012|V012A|V012B|V013|V014|V015|V016",
    "13383 EGYPTIAN HIEROGLYPH |V017|V018|V019|V020|V020A|V020B|V020C|V020D|V020E|V020F|V020G",
    "1338e EGYPTIAN HIEROGLYPH |V020H|V020I|V020J|V020K|V020L|V021|V022|V023|V023A|V024|V025",
    "13399 EGYPTIAN HIEROGLYPH |V026|V027|V028|V028A|V029|V029A|V030|V030A|V031|V031A|V032|V033",
    "133a5 EGYPTIAN HIEROGLYPH |V033A|V034|V035|V036|V037|V037A|V038|V039|V040|V040A|W001|W002",
    "133b1 EGYPTIAN HIEROGLYPH |W003|W003A|W004|W005|W006|W007|W008|W009|W009A|W010|W010A|W011",
    "133bd EGYPTIAN HIEROGLYPH |W012|W013|W014|W014A|W015|W016|W017|W017A|W018|W018A|W019|W020",
    "133c9 EGYPTIAN HIEROGLYPH |W021|W022|W023|W024|W024A|W025|X001|X002|X003|X004|X004A|X004B",
    "133d5 EGYPTIAN HIEROGLYPH |X005|X006|X006A|X007|X008|X008A|Y001|Y001A|Y002|Y003|Y004|Y005",
    "133e1 EGYPTIAN HIEROGLYPH |Y006|Y007|Y008|Z001|Z002|Z002A|Z002B|Z002C|Z002D|Z003|Z003A|Z003B",
    "133ed EGYPTIAN HIEROGLYPH |Z004|Z004A|Z005|Z005A|Z006|Z007|Z008|Z009|Z010|Z011|Z012|Z013",
    "133f9 EGYPTIAN HIEROGLYPH |Z014|Z015|Z015A|Z015B|Z015C|Z015D|Z015E|Z015F|Z015G|Z015H|Z015I",
    "13404 EGYPTIAN HIEROGLYPH |Z016|Z016A|Z016B|Z016C|Z016D|Z016E|Z016F|Z016G|Z016H|AA001|AA002",
    "1340f EGYPTIAN HIEROGLYPH |AA003|AA004|AA005|AA006|AA007|AA007A|AA007B|AA008|AA009|AA010",
    "13419 EGYPTIAN HIEROGLYPH |AA011|AA012|AA013|AA014|AA015|AA016|AA017|AA018|AA019|AA020|AA021",
    "13424 EGYPTIAN HIEROGLYPH |AA022|AA023|AA024|AA025|AA026|AA027|AA028|AA029|AA030|AA031|AA032",
    "13430 EGYPTIAN HIEROGLYPH |VERTICAL JOINER|HORIZONTAL JOINER",
    "13432 EGYPTIAN HIEROGLYPH INSERT AT |TOP START|BOTTOM START|TOP END|BOTTOM END",
    "13436 EGYPTIAN HIEROGLYPH |OVERLAY MIDDLE|BEGIN SEGMENT|END SEGMENT",
    "14400 ANATOLIAN HIEROGLYPH |A001|A002|A003|A004",
    "14404 ANATOLIAN HIEROGLYPH |A005|A006|A007|A008|A009|A010|A010A|A011|A012|A013|A014|A015",
    "14410 ANATOLIAN HIEROGLYPH |A016|A017|A018|A019|A020|A021|A022|A023|A024|A025|A026|A026A",
    "1441c ANATOLIAN HIEROGLYPH |A027|A028|A029|A030|A031|A032|A033|A034|A035|A036|A037|A038|A039",
    "14429 ANATOLIAN HIEROGLYPH |A039A|A040|A041|A041A|A042|A043|A044|A045|A045A|A046|A046A|A046B",
    "14435 ANATOLIAN HIEROGLYPH |A047|A048|A049|A050|A051|A052|A053|A054|A055|A056|A057|A058",
    "14441 ANATOLIAN HIEROGLYPH |A059|A060|A061|A062|A063|A064|A065|A066|A066A|A066B|A066C|A067",
    "1444d ANATOLIAN HIEROGLYPH |A068|A069|A070|A071|A072|A073|A074|A075|A076|A077|A078|A079|A080",
    "1445a ANATOLIAN HIEROGLYPH |A081|A082|A083|A084|A085|A086|A087|A088|A089|A090|A091|A092|A093",
    "14467 ANATOLIAN HIEROGLYPH |A094|A095|A096|A097|A097A|A098|A098A|A099|A100|A100A|A101|A101A",
    "14473 ANATOLIAN HIEROGLYPH |A102|A102A|A103|A104|A104A|A104B|A104C|A105|A105A|A105B|A106",
    "1447e ANATOLIAN HIEROGLYPH |A107|A107A|A107B|A107C|A108|A109|A110|A110A|A110B|A111|A112|A113",
    "1448a ANATOLIAN HIEROGLYPH |A114|A115|A115A|A116|A117|A118|A119|A120|A121|A122|A123|A124",
    "14496 ANATOLIAN HIEROGLYPH |A125|A125A|A126|A127|A128|A129|A130|A131|A132|A133|A134|A135",
    "144a2 ANATOLIAN HIEROGLYPH |A135A|A136|A137|A138|A139|A140|A141|A142|A143|A144|A145|A146",
    "144ae ANATOLIAN HIEROGLYPH |A147|A148|A149|A150|A151|A152|A153|A154|A155|A156|A157|A158|A159",
    "144bb ANATOLIAN HIEROGLYPH |A160|A161|A162|A163|A164|A165|A166|A167|A168|A169|A170|A171|A172",
    "144c8 ANATOLIAN HIEROGLYPH |A173|A174|A175|A176|A177|A178|A179|A180|A181|A182|A183|A184|A185",
    "144d5 ANATOLIAN HIEROGLYPH |A186|A187|A188|A189|A190|A191|A192|A193|A194|A195|A196|A197|A198",
    "144e2 ANATOLIAN HIEROGLYPH |A199|A200|A201|A202|A202A|A202B|A203|A204|A205|A206|A207|A207A",
    "144ee ANATOLIAN HIEROGLYPH |A208|A209|A209A|A210|A211|A212|A213|A214|A215|A215A|A216|A216A",
    "144fa ANATOLIAN HIEROGLYPH |A217|A218|A219|A220|A221|A222|A223|A224|A225|A226|A227|A227A",
    "14506 ANATOLIAN HIEROGLYPH |A228|A229|A230|A231|A232|A233|A234|A235|A236|A237|A238|A239",
    "14512 ANATOLIAN HIEROGLYPH |A240|A241|A242|A243|A244|A245|A246|A247|A248|A249|A250|A251|A252",
    "1451f ANATOLIAN HIEROGLYPH |A253|A254|A255|A256|A257|A258|A259|A260|A261|A262|A263|A264|A265",
    "1452c ANATOLIAN HIEROGLYPH |A266|A267|A267A|A268|A269|A270|A271|A272|A273|A274|A275|A276",
    "14538 ANATOLIAN HIEROGLYPH |A277|A278|A279|A280|A281|A282|A283|A284|A285|A286|A287|A288|A289",
    "14545 ANATOLIAN HIEROGLYPH |A289A|A290|A291|A292|A293|A294|A294A|A295|A296|A297|A298|A299",
    "14551 ANATOLIAN HIEROGLYPH |A299A|A300|A301|A302|A303|A304|A305|A306|A307|A308|A309|A309A",
    "1455d ANATOLIAN HIEROGLYPH |A310|A311|A312|A313|A314|A315|A316|A317|A318|A319|A320|A321",
    "14569 ANATOLIAN HIEROGLYPH |A322|A323|A324|A325|A326|A327|A328|A329|A329A|A330|A331|A332A",
    "14575 ANATOLIAN HIEROGLYPH |A332B|A332C|A333|A334|A335|A336|A336A|A336B|A336C|A337|A338",
    "14580 ANATOLIAN HIEROGLYPH |A339|A340|A341|A342|A343|A344|A345|A346|A347|A348|A349|A350|A351",
    "1458d ANATOLIAN HIEROGLYPH |A352|A353|A354|A355|A356|A357|A358|A359|A359A|A360|A361|A362",
    "14599 ANATOLIAN HIEROGLYPH |A363|A364|A364A|A365|A366|A367|A368|A368A|A369|A370|A371|A371A",
    "145a5 ANATOLIAN HIEROGLYPH |A372|A373|A374|A375|A376|A377|A378|A379|A380|A381|A381A|A382",
    "145b1 ANATOLIAN HIEROGLYPH |A383 RA OR RI|A383A|A384|A385|A386|A386A|A387|A388|A389|A390",
    "145bb ANATOLIAN HIEROGLYPH |A391|A392|A393 EIGHT|A394|A395|A396|A397|A398|A399|A400|A401",
    "145c6 ANATOLIAN HIEROGLYPH |A402|A403|A404|A405|A406|A407|A408|A409|A410 BEGIN LOGOGRAM MARK",
    "145cf ANATOLIAN HIEROGLYPH |A410A END LOGOGRAM MARK|A411|A412|A413|A414",
    "145d4 ANATOLIAN HIEROGLYPH |A415|A416|A417|A418|A419|A420|A421|A422|A423|A424|A425|A426|A427",
    "145e1 ANATOLIAN HIEROGLYPH |A428|A429|A430|A431|A432|A433|A434|A435|A436|A437|A438|A439|A440",
    "145ee ANATOLIAN HIEROGLYPH |A441|A442|A443|A444|A445|A446|A447|A448|A449|A450|A450A|A451",
    "145fa ANATOLIAN HIEROGLYPH |A452|A453|A454|A455|A456|A457|A457A|A458|A459|A460|A461|A462",
    "14606 ANATOLIAN HIEROGLYPH |A463|A464|A465|A466|A467|A468|A469|A470|A471|A472|A473|A474|A475",
    "14613 ANATOLIAN HIEROGLYPH |A476|A477|A478|A479|A480|A481|A482|A483|A484|A485|A486|A487|A488",
    "14620 ANATOLIAN HIEROGLYPH |A489|A490|A491|A492|A493|A494|A495|A496|A497|A501|A502|A503|A504",
    "1462d ANATOLIAN HIEROGLYPH |A505|A506|A507|A508|A509|A510|A511|A512|A513|A514|A515|A516|A517",
    "1463a ANATOLIAN HIEROGLYPH |A518|A519|A520|A521|A522|A523|A524|A525|A526|A527|A528|A529|A530",
    "16800 BAMUM LETTER PHASE-A |NGKUE MFON|GBIEE FON|PON MFON PIPAEMGBIEE|PON MFON PIPAEMBA",
    "16804 BAMUM LETTER PHASE-A |NAA MFON|SHUENSHUET|TITA MFON|NZA MFON|SHINDA PA NJI",
    "16809 BAMUM LETTER PHASE-A |PON PA NJI PIPAEMGBIEE|PON PA NJI PIPAEMBA|MAEMBGBIEE|TU MAEMBA",
    "1680d BAMUM LETTER PHASE-A |NGANGU|MAEMVEUX|MANSUAE|MVEUAENGAM|SEUNYAM|NTOQPEN|KEUKEUTNDA",
    "16814 BAMUM LETTER PHASE-A |NKINDI|SUU|NGKUENZEUM|LAPAQ|LET KUT|NTAP MFAA|MAEKEUP|PASHAE",
    "1681c BAMUM LETTER PHASE-A |GHEUAERAE|PAMSHAE|MON NGGEUAET|NZUN MEUT|U YUQ NAE|GHEUAEGHEUAE",
    "16822 BAMUM LETTER PHASE-A |NTAP NTAA|SISA|MGBASA|MEUNJOMNDEUQ|MOOMPUQ|KAFA|PA LEERAEWA",
    "16829 BAMUM LETTER PHASE-A |NDA LEERAEWA|PET|MAEMKPEN|NIKA|PUP|TUAEP|LUAEP|SONJAM|TEUTEUWEN",
    "16832 BAMUM LETTER PHASE-A |MAENYI|KET|NDAANGGEUAET|KUOQ|MOOMEUT|SHUM|LOMMAE|FIRI|ROM",
    "1683b BAMUM LETTER PHASE-A |KPOQ|SOQ|MAP PIEET|SHIRAE|NTAP|SHOQ NSHUT YUM|NYIT MONGKEUAEQ",
    "16842 BAMUM LETTER PHASE-A |PAARAE|NKAARAE|UNKNOWN|NGGEN|MAESI|NJAM|MBANYI|NYET",
    "1684a BAMUM LETTER PHASE-A |TEUAEN|SOT|PAAM|NSHIEE|MAEM|NYI|KAQ|NSHA|VEE|LU|NEN|NAQ|MBAQ",
    "16857 BAMUM LETTER PHASE-B |NSHUET|TU MAEMGBIEE",
    "16859 BAMUM LETTER PHASE-B |SIEE|SET TU|LOM NTEUM|MBA MAELEE|KIEEM|YEURAE|MBAARAE|KAM|PEESHI",
    "16862 BAMUM LETTER PHASE-B |YAFU LEERAEWA|LAM NSHUT NYAM|NTIEE SHEUOQ|NDU NJAA|GHEUGHEUAEM",
    "16867 BAMUM LETTER PHASE-B |PIT|TU NSIEE|SHET NJAQ|SHEUAEQTU|MFON TEUAEQ|MBIT MBAAKET",
    "1686d BAMUM LETTER PHASE-B |NYI NTEUM|KEUPUQ|GHEUGHEN|KEUYEUX|LAANAE|PARUM|VEUM|NGKINDI MVOP",
    "16875 BAMUM LETTER PHASE-B |NGGEU MBU|WUAET|SAKEUAE|TAAM|MEUQ|NGGUOQ|NGGUOQ LARGE|MFIYAQ",
    "1687d BAMUM LETTER PHASE-B |SUE|MBEURI|MONTIEEN|NYAEMAE|PUNGAAM|MEUT NGGEET|FEUX|MBUOQ",
    "16885 BAMUM LETTER PHASE-B |FEE|KEUAEM|MA NJEUAENA|MA NJUQA|LET|NGGAAM|NSEN|MA|KIQ|NGOM",
    "1688f BAMUM LETTER PHASE-C |NGKUE MAEMBA|NZA|YUM|WANGKUOQ|NGGEN|NDEUAEREE|NGKAQ",
    "16896 BAMUM LETTER PHASE-C |GHARAE|MBEEKEET|GBAYI|NYIR MKPARAQ MEUN|NTU MBIT|MBEUM|PIRIEEN",
    "1689d BAMUM LETTER PHASE-C |NDOMBU|MBAA CABBAGE-TREE|KEUSHEUAEP|GHAP|KEUKAQ|YU MUOMAE",
    "168a3 BAMUM LETTER PHASE-C |NZEUM|MBUE|NSEUAEN|MBIT|YEUQ|KPARAQ|KAA|SEUX|NDIDA|TAASHAE",
    "168ad BAMUM LETTER PHASE-C |NJUEQ|TITA YUE|SUAET|NGGUAEN NYAM|VEUX|NANSANAQ|MA KEUAERI|NTAA",
    "168b5 BAMUM LETTER PHASE-C |NGGUON|LAP|MBIRIEEN|MGBASAQ|NTEUNGBA|TEUTEUX|NGGUM|FUE|NDEUT",
    "168be BAMUM LETTER PHASE-C |NSA|NSHAQ|BUNG|VEUAEPEN|MBERAE|RU|NJAEM|LAM|TITUAEP|NSUOT NGOM",
    "168c8 BAMUM LETTER PHASE-C |NJEEEE|KET|NGGU|MAESI|MBUAEM|LU|KUT|NJAM|NGOM|WUP|NGGUEET",
    "168d3 BAMUM LETTER PHASE-C |NSOM|NTEN|KUOP NKAARAE|NSUN|NDAM|MA NSIEE|YAA|NDAP|SHUEQ|SETFON",
    "168dd BAMUM LETTER PHASE-C |MBI|MAEMBA|MBANYI|KEUSEUX|MBEUX|KEUM|MBAA PICKET|YUWOQ|NJEUX",
    "168e6 BAMUM LETTER PHASE-C |MIEE|MUAE|SHIQ|KEN LAW|KEN FATIGUE|NGAQ|NAQ|LIQ|PIN|PEN|TET",
    "168f1 BAMUM LETTER PHASE-D |MBUO|WAP|NJI|MFON|NJIEE|LIEE",
    "168f7 BAMUM LETTER PHASE-D |NJEUT|NSHEE|NGGAAMAE|NYAM|WUAEN|NGKUN|SHEE|NGKAP|KEUAETMEUN|TEUT",
    "16901 BAMUM LETTER PHASE-D |SHEUAE|NJAP|SUE|KET|YAEMMAE|KUOM|SAP|MFEUT|NDEUX|MALEERI|MEUT",
    "1690c BAMUM LETTER PHASE-D |SEUAEQ|YEN|NJEUAEM|KEUOT MBUAE|NGKEURI|TU|GHAA|NGKYEE|FEUFEUAET",
    "16915 BAMUM LETTER PHASE-D |NDEE|MGBOFUM|LEUAEP|NDON|MONI|MGBEUN|PUUT|MGBIEE|MFO|LUM",
    "1691f BAMUM LETTER PHASE-D |NSIEEP|MBAA|KWAET|NYET|TEUAEN|SOT|YUWOQ|KEUM|RAEM|TEEEE|NGKEUAEQ",
    "1692a BAMUM LETTER PHASE-D |MFEUAE|NSIEET|KEUP|PIP|PEUTAE|NYUE|LET|NGGAAM|MFIEE|NGGWAEN|YUOM",
    "16935 BAMUM LETTER PHASE-D |PAP|YUOP|NDAM|NTEUM|SUAE|KUN|NGGEUX|NGKIEE|TUOT|MEUN|KUQ|NSUM",
    "16941 BAMUM LETTER PHASE-D |TEUN|MAENJET|NGGAP|LEUM|NGGUOM|NSHUT|NJUEQ|GHEUAE|KU|REN OLD",
    "1694b BAMUM LETTER PHASE-D |TAE|TOQ|NYI|RII|LEEEE|MEEEE|M|SUU|MU|SHII|SHEUX|KYEE|NU|SHU|NTEE",
    "1695a BAMUM LETTER PHASE-D |PEE|NI|SHOQ|PUQ|MVOP|LOQ|REN MUCH|TI|NTUU|MBAA SEVEN|SAQ|FAA",
    "16966 |BAMUM LETTER PHASE-E NDAP",
    "16967 BAMUM LETTER PHASE-E |TOON|MBEUM|LAP|VOM|LOON|PAA|SOM|RAQ|NSHUOP|NDUN|PUAE|TAM|NGKA",
    "16974 BAMUM LETTER PHASE-E |KPEUX|WUO|SEE|NGGEUAET|PAAM|TOO|KUOP|LOM|NSHIEE|NGOP|MAEM|NGKEUX",
    "16980 BAMUM LETTER PHASE-E |NGOQ|NSHUE|RIMGBA|NJEUX|PEEM|SAA|NGGURAE|MGBA|GHEUX|NGKEUAEM",
    "1698a BAMUM LETTER PHASE-E |NJAEMLI|MAP|LOOT|NGGEEEE|NDIQ|TAEN NTEUM|SET|PUM|NDAA SOFTNESS",
    "16993 BAMUM LETTER PHASE-E |NGGUAESHAE NYAM|YIEE|GHEUN|TUAE|YEUAE|PO|TUMAE|KEUAE",
    "1699b BAMUM LETTER PHASE-E |SUAEN|TEUAEQ|VEUAE|WEUX|LAAM|PU|TAAQ|GHAAMAE|NGEUREUT|SHEUAEQ",
    "169a5 BAMUM LETTER PHASE-E |MGBEN|MBEE|NZAQ|NKOM|GBET|TUM|KUET|YAP|NYI CLEAVER|YIT|MFEUQ",
    "169b0 BAMUM LETTER PHASE-E |NDIAQ|PIEEQ|YUEQ|LEUAEM|FUE|GBEUX|NGKUP|KET|MAE|NGKAAMI|GHET|FA",
    "169bc BAMUM LETTER PHASE-E |NTUM|PEUT|YEUM|NGGEUAE|NYI BETWEEN|NZUQ|POON|MIEE|FUET|NAE|MUAE",
    "169c7 BAMUM LETTER PHASE-E |GHEUAE|FU I|MVI|PUAQ|NGKUM|KUT|PIET|NTAP|YEUAET|NGGUP|PA PEOPLE",
    "169d2 BAMUM LETTER PHASE-E |FU CALL|FOM|NJEE|A|TOQ|O|I|LAQ|PA PLURAL|TAA|TAQ|NDAA MY HOUSE",
    "169de BAMUM LETTER PHASE-E |SHIQ|YEUX|NGUAE|YUAEN|YOQ SWIMMING|YOQ COVER|YUQ|YUN|KEUX",
    "169e7 BAMUM LETTER PHASE-E |PEUX|NJEE EPOCH|PUE|WUE|FEE|VEE|LU|MI|REUX|RAE|NGUAET|NGA|SHO",
    "169f4 BAMUM LETTER PHASE-E |SHOQ|FU REMEDY|NA|PI|LOQ|KO|MEN|MA|MAQ|TEU|KI|MON|TEN|FAQ|GHOM",
    "16a03 BAMUM LETTER PHASE-F |KA|U|KU|EE|REE|TAE|NYI|LA|RII|RIEE",
    "16a0d BAMUM LETTER PHASE-F |MEEEE|TAA|NDAA|NJAEM|M|SUU|SHII|SI|SEUX|KYEE|KET|NUAE|NU|NJUAE",
    "16a1b BAMUM LETTER PHASE-F |YOQ|SHU|YA|NSHA|PEUX|NTEE|WUE|PEE|RU|NI|REUX|KEN|NGKWAEN|NGGA",
    "16a29 BAMUM LETTER PHASE-F |SHO|PUAE|FOM|WA|LI|LOQ|KO|MBEN|REN|MA|MO|MBAA|TET|KPA|SAMBA|VUEQ",
    "16a40 MRO LETTER |TA|NGI|YO|MIM|BA|DA|A|PHI|KHAI|HAO",
    "16a4a MRO LETTER |DAI|CHU|KEAAE|OL|MAEM|NIN|PA|OO|O|RO|SHI|THEA|EA|WA|E|KO|LAN|LA|HAI|RI|TEK",
    "16a60 MRO DIGIT |ZERO|ONE|TWO|THREE|FOUR|FIVE|SIX|SEVEN|EIGHT|NINE",
    "16a6e MRO |DANDA|DOUBLE DANDA",
    "16a70 TANGSA LETTER |OZ|OC|OQ|OX|AZ|AC",
    "16a76 TANGSA LETTER |AQ|AX|VZ|VC|VQ|VX|EZ|EC|EQ|EX|IZ|IC|IQ|IX|UZ|UC|UQ|UX|AWZ|AWC|AWQ|AWX",
    "16a8c TANGSA LETTER |UIZ|UIC|UIQ|UIX|FINAL NG|LONG UEX|SHORT UEZ|SHORT AWX|UEC|UEZ|UEQ|UEX",
    "16a98 TANGSA LETTER |UIUZ|UIUC|UIUQ|UIUX|MZ|MC|MQ|MX|KA|KHA|GA|NGA|SA|YA|WA|PA|NYA|PHA|BA",
    "16aab TANGSA LETTER |MA|NA|HA|LA|HTA|TA|DA|RA|NHA|SHA|CA|TSA|GHA|HTTA|THA|XA|FA|DHA|CHA|ZA",
    "16ac0 TANGSA DIGIT |ZERO|ONE|TWO|THREE|FOUR|FIVE|SIX|SEVEN|EIGHT|NINE",
    "16ad0 BASSA VAH LETTER |ENNI|KA|SE|FA|MBE|YIE|GAH|DHII|KPAH",
    "16ad9 BASSA VAH LETTER |JO|HWAH|WA|ZO|GBU|DO|CE|UWU|TO|BA|VU|YEIN|PA|WADDA|A|O|OO|U|EE|E|I",
    "16af0 BASSA VAH COMBINING |HIGH TONE|LOW TONE|MID TONE|LOW-MID TONE|HIGH-LOW TONE",
    "16af5 |BASSA VAH FULL STOP",
    "16b00 PAHAWH HMONG VOWEL |KEEB|KEEV|KIB|KIV|KAUB|KAUV|KUB|KUV|KEB|KEV|KAIB|KAIV|KOOB|KOOV",
    "16b0e PAHAWH HMONG VOWEL |KAWB|KAWV|KUAB|KUAV|KOB|KOV|KIAB|KIAV|KAB|KAV|KWB|KWV|KAAB|KAAV",
    "16b1c PAHAWH HMONG CONSONANT |VAU|NTSAU|LAU|HAU|NLAU|RAU|NKAU",
    "16b23 PAHAWH HMONG CONSONANT |QHAU|YAU|HLAU|MAU|CHAU|NCHAU|HNAU|PLHAU|NTHAU|NAU|AU|XAU|CAU",
    "16b30 PAHAWH HMONG MARK CIM |TUB|SO|KES|KHAV|SUAM|HOM|TAUM",
    "16b37 PAHAWH HMONG SIGN |VOS THOM|VOS TSHAB CEEB|CIM CHEEM|VOS THIAB|VOS FEEM",
    "16b3c PAHAWH HMONG SIGN XYEEM |NTXIV|RHO|TOV|FAIB",
    "16b40 PAHAWH HMONG SIGN |VOS SEEV|MEEJ SUAB|VOS NRUA|IB YAM|XAUS|CIM TSOV ROG",
    "16b50 PAHAWH HMONG DIGIT |ZERO|ONE|TWO|THREE|FOUR|FIVE|SIX|SEVEN|EIGHT|NINE",
    "16b5b PAHAWH HMONG NUMBER |TENS|HUNDREDS",
    "16b5d PAHAWH HMONG NUMBER |TEN THOUSANDS|MILLIONS|HUNDRED MILLIONS|TEN BILLIONS|TRILLIONS",
    "16b63 PAHAWH HMONG SIGN |VOS LUB|XYOO|HLI|THIRD-STAGE HLI",
    "16b67 PAHAWH HMONG SIGN |ZWJ THAJ|HNUB|NQIG|XIAB|NTUJ|AV|TXHEEJ CEEV|MEEJ TSEEB|TAU|LOS|MUS",
    "16b72 PAHAWH HMONG SIGN CIM |HAIS LUS NTOG NTOG|CUAM TSHOOJ|TXWV|TXWV CHWV|PUB DAWB|NRES TOS",
    "16b7d PAHAWH HMONG CLAN SIGN |TSHEEJ|YEEG|LIS|LAUJ|XYOOJ",
    "16b82 PAHAWH HMONG CLAN SIGN |KOO|HAWJ|MUAS|THOJ|TSAB|PHAB|KHAB|HAM|VAJ|FAJ|YAJ|TSWB|KWM|VWJ",
    "16e40 MEDEFAIDRIN CAPITAL LETTER |M|S|V|W|ATIU|Z",
    "16e46 MEDEFAIDRIN CAPITAL LETTER |KP|P|T|G|F|I|K|A|J|E|B|C|U|YU|L|Q|HP|NY|X|D|OE|N|R|O|AI|Y",
    "16e60 MEDEFAIDRIN SMALL LETTER |M|S|V|W|ATIU",
    "16e65 MEDEFAIDRIN SMALL LETTER |Z|KP|P|T|G|F|I|K|A|J|E|B|C|U|YU|L|Q|HP|NY|X|D|OE|N|R|O|AI|Y",
    "16e80 MEDEFAIDRIN DIGIT |ZERO|ONE|TWO|THREE|FOUR|FIVE|SIX|SEVEN|EIGHT|NINE",
    "16e8a MEDEFAIDRIN NUMBER |TEN|ELEVEN|TWELVE",
    "16e8d MEDEFAIDRIN NUMBER |THIRTEEN|FOURTEEN|FIFTEEN|SIXTEEN|SEVENTEEN|EIGHTEEN|NINETEEN",
    "16e94 MEDEFAIDRIN DIGIT |ONE ALTERNATE FORM|TWO ALTERNATE FORM|THREE ALTERNATE FORM",
    "16e97 MEDEFAIDRIN |COMMA|FULL STOP|SYMBOL AIVA|EXCLAMATION OH",
    "16f00 MIAO LETTER |PA|BA",
    "16f02 MIAO LETTER |YI PA|PLA|MA|MHA|ARCHAIC MA|FA|VA|VFA|TA|DA|YI TTA|YI TA|TTA|DDA|NA|NHA",
    "16f12 MIAO LETTER |YI NNA|ARCHAIC NA|NNA|NNHA|LA|LYA|LHA|LHYA|TLHA|DLHA|TLHYA|DLHYA|KA|GA",
    "16f20 MIAO LETTER |YI KA|QA|QGA|NGA|NGHA|ARCHAIC NGA|HA|XA|GHA|GHHA|TSSA|DZZA|NYA|NYHA|TSHA",
    "16f2f MIAO LETTER |DZHA|YI TSHA|YI DZHA|REFORMED TSHA|SHA|SSA|ZHA|ZSHA|TSA|DZA|YI TSA|SA",
    "16f3b MIAO LETTER |ZA|ZSA|ZZA|ZZSA|ARCHAIC ZZA|ZZYA|ZZSYA|WA|AH|HHA|BRI|SYI|DZYI|TE|TSE|RTE",
    "16f4f MIAO |SIGN CONSONANT MODIFIER BAR|LETTER NASALIZATION|SIGN ASPIRATION",
    "16f52 MIAO SIGN REFORMED |VOICING|ASPIRATION",
    "16f54 MIAO VOWEL SIGN |A|AA|AHH|AN|ANG|O|OO|WO|W|E|EN|ENG|OEY|I|IA|IAN|IANG",
    "16f65 MIAO VOWEL SIGN |IO|IE|II|IU|ING|U|UA|UAN|UANG|UU|UEI|UNG|Y|YI|AE|AEE|ERR|ROUNDED ERR",
    "16f77 MIAO VOWEL SIGN |ER|ROUNDED ER|AI|EI|AU|OU|N|NG|UOG|YUI|OG|OER|VW|IG|EA|IONG|UI",
    "16f8f MIAO TONE |RIGHT|TOP RIGHT|ABOVE|BELOW",
    "16f93 MIAO LETTER |TONE-2|TONE-3|TONE-4|TONE-5|TONE-6|TONE-7|TONE-8",
    "16f9a MIAO LETTER REFORMED |TONE-1|TONE-2|TONE-4|TONE-5|TONE-6|TONE-8",
    "16fe0 |TANGUT ITERATION MARK|NUSHU ITERATION MARK",
    "16fe2 |OLD CHINESE HOOK MARK|OLD CHINESE ITERATION MARK|KHITAN SMALL SCRIPT FILLER",
    "16ff0 VIETNAMESE ALTERNATE READING MARK |CA|NHAY",
    "18800 TANGUT |COMPONENT-001|COMPONENT-002|COMPONENT-003",
    "18803 TANGUT |COMPONENT-004|COMPONENT-005|COMPONENT-006|COMPONENT-007|COMPONENT-008",
    "18808 TANGUT |COMPONENT-009|COMPONENT-010|COMPONENT-011|COMPONENT-012|COMPONENT-013",
    "1880d TANGUT |COMPONENT-014|COMPONENT-015|COMPONENT-016|COMPONENT-017|COMPONENT-018",
    "18812 TANGUT |COMPONENT-019|COMPONENT-020|COMPONENT-021|COMPONENT-022|COMPONENT-023",
    "18817 TANGUT |COMPONENT-024|COMPONENT-025|COMPONENT-026|COMPONENT-027|COMPONENT-028",
    "1881c TANGUT |COMPONENT-029|COMPONENT-030|COMPONENT-031|COMPONENT-032|COMPONENT-033",
    "18821 TANGUT |COMPONENT-034|COMPONENT-035|COMPONENT-036|COMPONENT-037|COMPONENT-038",
    "18826 TANGUT |COMPONENT-039|COMPONENT-040|COMPONENT-041|COMPONENT-042|COMPONENT-043",
    "1882b TANGUT |COMPONENT-044|COMPONENT-045|COMPONENT-046|COMPONENT-047|COMPONENT-048",
    "18830 TANGUT |COMPONENT-049|COMPONENT-050|COMPONENT-051|COMPONENT-052|COMPONENT-053",
    "18835 TANGUT |COMPONENT-054|COMPONENT-055|COMPONENT-056|COMPONENT-057|COMPONENT-058",
    "1883a TANGUT |COMPONENT-059|COMPONENT-060|COMPONENT-061|COMPONENT-062|COMPONENT-063",
    "1883f TANGUT |COMPONENT-064|COMPONENT-065|COMPONENT-066|COMPONENT-067|COMPONENT-068",
    "18844 TANGUT |COMPONENT-069|COMPONENT-070|COMPONENT-071|COMPONENT-072|COMPONENT-073",
    "18849 TANGUT |COMPONENT-074|COMPONENT-075|COMPONENT-076|COMPONENT-077|COMPONENT-078",
    "1884e TANGUT |COMPONENT-079|COMPONENT-080|COMPONENT-081|COMPONENT-082|COMPONENT-083",
    "18853 TANGUT |COMPONENT-084|COMPONENT-085|COMPONENT-086|COMPONENT-087|COMPONENT-088",
    "18858 TANGUT |COMPONENT-089|COMPONENT-090|COMPONENT-091|COMPONENT-092|COMPONENT-093",
    "1885d TANGUT |COMPONENT-094|COMPONENT-095|COMPONENT-096|COMPONENT-097|COMPONENT-098",
    "18862 TANGUT |COMPONENT-099|COMPONENT-100|COMPONENT-101|COMPONENT-102|COMPONENT-103",
    "18867 TANGUT |COMPONENT-104|COMPONENT-105|COMPONENT-106|COMPONENT-107|COMPONENT-108",
    "1886c TANGUT |COMPONENT-109|COMPONENT-110|COMPONENT-111|COMPONENT-112|COMPONENT-113",
    "18871 TANGUT |COMPONENT-114|COMPONENT-115|COMPONENT-116|COMPONENT-117|COMPONENT-118",
    "18876 TANGUT |COMPONENT-119|COMPONENT-120|COMPONENT-121|COMPONENT-122|COMPONENT-123",
    "1887b TANGUT |COMPONENT-124|COMPONENT-125|COMPONENT-126|COMPONENT-127|COMPONENT-128",
    "18880 TANGUT |COMPONENT-129|COMPONENT-130|COMPONENT-131|COMPONENT-132|COMPONENT-133",
    "18885 TANGUT |COMPONENT-134|COMPONENT-135|COMPONENT-136|COMPONENT-137|COMPONENT-138",
    "1888a TANGUT |COMPONENT-139|COMPONENT-140|COMPONENT-141|COMPONENT-142|COMPONENT-143",
    "1888f TANGUT |COMPONENT-144|COMPONENT-145|COMPONENT-146|COMPONENT-147|COMPONENT-148",
    "18894 TANGUT |COMPONENT-149|COMPONENT-150|COMPONENT-151|COMPONENT-152|COMPONENT-153",
    "18899 TANGUT |COMPONENT-154|COMPONENT-155|COMPONENT-156|COMPONENT-157|COMPONENT-158",
    "1889e TANGUT |COMPONENT-159|COMPONENT-160|COMPONENT-161|COMPONENT-162|COMPONENT-163",
    "188a3 TANGUT |COMPONENT-164|COMPONENT-165|COMPONENT-166|COMPONENT-167|COMPONENT-168",
    "188a8 TANGUT |COMPONENT-169|COMPONENT-170|COMPONENT-171|COMPONENT-172|COMPONENT-173",
    "188ad TANGUT |COMPONENT-174|COMPONENT-175|COMPONENT-176|COMPONENT-177|COMPONENT-178",
    "188b2 TANGUT |COMPONENT-179|COMPONENT-180|COMPONENT-181|COMPONENT-182|COMPONENT-183",
    "188b7 TANGUT |COMPONENT-184|COMPONENT-185|COMPONENT-186|COMPONENT-187|COMPONENT-188",
    "188bc TANGUT |COMPONENT-189|COMPONENT-190|COMPONENT-191|COMPONENT-192|COMPONENT-193",
    "188c1 TANGUT |COMPONENT-194|COMPONENT-195|COMPONENT-196|COMPONENT-197|COMPONENT-198",
    "188c6 TANGUT |COMPONENT-199|COMPONENT-200|COMPONENT-201|COMPONENT-202|COMPONENT-203",
    "188cb TANGUT |COMPONENT-204|COMPONENT-205|COMPONENT-206|COMPONENT-207|COMPONENT-208",
    "188d0 TANGUT |COMPONENT-209|COMPONENT-210|COMPONENT-211|COMPONENT-212|COMPONENT-213",
    "188d5 TANGUT |COMPONENT-214|COMPONENT-215|COMPONENT-216|COMPONENT-217|COMPONENT-218",
    "188da TANGUT |COMPONENT-219|COMPONENT-220|COMPONENT-221|COMPONENT-222|COMPONENT-223",
    "188df TANGUT |COMPONENT-224|COMPONENT-225|COMPONENT-226|COMPONENT-227|COMPONENT-228",
    "188e4 TANGUT |COMPONENT-229|COMPONENT-230|COMPONENT-231|COMPONENT-232|COMPONENT-233",
    "188e9 TANGUT |COMPONENT-234|COMPONENT-235|COMPONENT-236|COMPONENT-237|COMPONENT-238",
    "188ee TANGUT |COMPONENT-239|COMPONENT-240|COMPONENT-241|COMPONENT-242|COMPONENT-243",
    "188f3 TANGUT |COMPONENT-244|COMPONENT-245|COMPONENT-246|COMPONENT-247|COMPONENT-248",
    "188f8 TANGUT |COMPONENT-249|COMPONENT-250|COMPONENT-251|COMPONENT-252|COMPONENT-253",
    "188fd TANGUT |COMPONENT-254|COMPONENT-255|COMPONENT-256|COMPONENT-257|COMPONENT-258",
    "18902 TANGUT |COMPONENT-259|COMPONENT-260|COMPONENT-261|COMPONENT-262|COMPONENT-263",
    "18907 TANGUT |COMPONENT-264|COMPONENT-265|COMPONENT-266|COMPONENT-267|COMPONENT-268",
    "1890c TANGUT |COMPONENT-269|COMPONENT-270|COMPONENT-271|COMPONENT-272|COMPONENT-273",
    "18911 TANGUT |COMPONENT-274|COMPONENT-275|COMPONENT-276|COMPONENT-277|COMPONENT-278",
    "18916 TANGUT |COMPONENT-279|COMPONENT-280|COMPONENT-281|COMPONENT-282|COMPONENT-283",
    "1891b TANGUT |COMPONENT-284|COMPONENT-285|COMPONENT-286|COMPONENT-287|COMPONENT-288",
    "18920 TANGUT |COMPONENT-289|COMPONENT-290|COMPONENT-291|COMPONENT-292|COMPONENT-293",
    "18925 TANGUT |COMPONENT-294|COMPONENT-295|COMPONENT-296|COMPONENT-297|COMPONENT-298",
    "1892a TANGUT |COMPONENT-299|COMPONENT-300|COMPONENT-301|COMPONENT-302|COMPONENT-303",
    "1892f TANGUT |COMPONENT-304|COMPONENT-305|COMPONENT-306|COMPONENT-307|COMPONENT-308",
    "18934 TANGUT |COMPONENT-309|COMPONENT-310|COMPONENT-311|COMPONENT-312|COMPONENT-313",
    "18939 TANGUT |COMPONENT-314|COMPONENT-315|COMPONENT-316|COMPONENT-317|COMPONENT-318",
    "1893e TANGUT |COMPONENT-319|COMPONENT-320|COMPONENT-321|COMPONENT-322|COMPONENT-323",
    "18943 TANGUT |COMPONENT-324|COMPONENT-325|COMPONENT-326|COMPONENT-327|COMPONENT-328",
    "18948 TANGUT |COMPONENT-329|COMPONENT-330|COMPONENT-331|COMPONENT-332|COMPONENT-333",
    "1894d TANGUT |COMPONENT-334|COMPONENT-335|COMPONENT-336|COMPONENT-337|COMPONENT-338",
    "18952 TANGUT |COMPONENT-339|COMPONENT-340|COMPONENT-341|COMPONENT-342|COMPONENT-343",
    "18957 TANGUT |COMPONENT-344|COMPONENT-345|COMPONENT-346|COMPONENT-347|COMPONENT-348",
    "1895c TANGUT |COMPONENT-349|COMPONENT-350|COMPONENT-351|COMPONENT-352|COMPONENT-353",
    "18961 TANGUT |COMPONENT-354|COMPONENT-355|COMPONENT-356|COMPONENT-357|COMPONENT-358",
    "18966 TANGUT |COMPONENT-359|COMPONENT-360|COMPONENT-361|COMPONENT-362|COMPONENT-363",
    "1896b TANGUT |COMPONENT-364|COMPONENT-365|COMPONENT-366|COMPONENT-367|COMPONENT-368",
    "18970 TANGUT |COMPONENT-369|COMPONENT-370|COMPONENT-371|COMPONENT-372|COMPONENT-373",
    "18975 TANGUT |COMPONENT-374|COMPONENT-375|COMPONENT-376|COMPONENT-377|COMPONENT-378",
    "1897a TANGUT |COMPONENT-379|COMPONENT-380|COMPONENT-381|COMPONENT-382|COMPONENT-383",
    "1897f TANGUT |COMPONENT-384|COMPONENT-385|COMPONENT-386|COMPONENT-387|COMPONENT-388",
    "18984 TANGUT |COMPONENT-389|COMPONENT-390|COMPONENT-391|COMPONENT-392|COMPONENT-393",
    "18989 TANGUT |COMPONENT-394|COMPONENT-395|COMPONENT-396|COMPONENT-397|COMPONENT-398",
    "1898e TANGUT |COMPONENT-399|COMPONENT-400|COMPONENT-401|COMPONENT-402|COMPONENT-403",
    "18993 TANGUT |COMPONENT-404|COMPONENT-405|COMPONENT-406|COMPONENT-407|COMPONENT-408",
    "18998 TANGUT |COMPONENT-409|COMPONENT-410|COMPONENT-411|COMPONENT-412|COMPONENT-413",
    "1899d TANGUT |COMPONENT-414|COMPONENT-415|COMPONENT-416|COMPONENT-417|COMPONENT-418",
    "189a2 TANGUT |COMPONENT-419|COMPONENT-420|COMPONENT-421|COMPONENT-422|COMPONENT-423",
    "189a7 TANGUT |COMPONENT-424|COMPONENT-425|COMPONENT-426|COMPONENT-427|COMPONENT-428",
    "189ac TANGUT |COMPONENT-429|COMPONENT-430|COMPONENT-431|COMPONENT-432|COMPONENT-433",
    "189b1 TANGUT |COMPONENT-434|COMPONENT-435|COMPONENT-436|COMPONENT-437|COMPONENT-438",
    "189b6 TANGUT |COMPONENT-439|COMPONENT-440|COMPONENT-441|COMPONENT-442|COMPONENT-443",
    "189bb TANGUT |COMPONENT-444|COMPONENT-445|COMPONENT-446|COMPONENT-447|COMPONENT-448",
    "189c0 TANGUT |COMPONENT-449|COMPONENT-450|COMPONENT-451|COMPONENT-452|COMPONENT-453",
    "189c5 TANGUT |COMPONENT-454|COMPONENT-455|COMPONENT-456|COMPONENT-457|COMPONENT-458",
    "189ca TANGUT |COMPONENT-459|COMPONENT-460|COMPONENT-461|COMPONENT-462|COMPONENT-463",
    "189cf TANGUT |COMPONENT-464|COMPONENT-465|COMPONENT-466|COMPONENT-467|COMPONENT-468",
    "189d4 TANGUT |COMPONENT-469|COMPONENT-470|COMPONENT-471|COMPONENT-472|COMPONENT-473",
    "189d9 TANGUT |COMPONENT-474|COMPONENT-475|COMPONENT-476|COMPONENT-477|COMPONENT-478",
    "189de TANGUT |COMPONENT-479|COMPONENT-480|COMPONENT-481|COMPONENT-482|COMPONENT-483",
    "189e3 TANGUT |COMPONENT-484|COMPONENT-485|COMPONENT-486|COMPONENT-487|COMPONENT-488",
    "189e8 TANGUT |COMPONENT-489|COMPONENT-490|COMPONENT-491|COMPONENT-492|COMPONENT-493",
    "189ed TANGUT |COMPONENT-494|COMPONENT-495|COMPONENT-496|COMPONENT-497|COMPONENT-498",
    "189f2 TANGUT |COMPONENT-499|COMPONENT-500|COMPONENT-501|COMPONENT-502|COMPONENT-503",
    "189f7 TANGUT |COMPONENT-504|COMPONENT-505|COMPONENT-506|COMPONENT-507|COMPONENT-508",
    "189fc TANGUT |COMPONENT-509|COMPONENT-510|COMPONENT-511|COMPONENT-512|COMPONENT-513",
    "18a01 TANGUT |COMPONENT-514|COMPONENT-515|COMPONENT-516|COMPONENT-517|COMPONENT-518",
    "18a06 TANGUT |COMPONENT-519|COMPONENT-520|COMPONENT-521|COMPONENT-522|COMPONENT-523",
    "18a0b TANGUT |COMPONENT-524|COMPONENT-525|COMPONENT-526|COMPONENT-527|COMPONENT-528",
    "18a10 TANGUT |COMPONENT-529|COMPONENT-530|COMPONENT-531|COMPONENT-532|COMPONENT-533",
    "18a15 TANGUT |COMPONENT-534|COMPONENT-535|COMPONENT-536|COMPONENT-537|COMPONENT-538",
    "18a1a TANGUT |COMPONENT-539|COMPONENT-540|COMPONENT-541|COMPONENT-542|COMPONENT-543",
    "18a1f TANGUT |COMPONENT-544|COMPONENT-545|COMPONENT-546|COMPONENT-547|COMPONENT-548",
    "18a24 TANGUT |COMPONENT-549|COMPONENT-550|COMPONENT-551|COMPONENT-552|COMPONENT-553",
    "18a29 TANGUT |COMPONENT-554|COMPONENT-555|COMPONENT-556|COMPONENT-557|COMPONENT-558",
    "18a2e TANGUT |COMPONENT-559|COMPONENT-560|COMPONENT-561|COMPONENT-562|COMPONENT-563",
    "18a33 TANGUT |COMPONENT-564|COMPONENT-565|COMPONENT-566|COMPONENT-567|COMPONENT-568",
    "18a38 TANGUT |COMPONENT-569|COMPONENT-570|COMPONENT-571|COMPONENT-572|COMPONENT-573",
    "18a3d TANGUT |COMPONENT-574|COMPONENT-575|COMPONENT-576|COMPONENT-577|COMPONENT-578",
    "18a42 TANGUT |COMPONENT-579|COMPONENT-580|COMPONENT-581|COMPONENT-582|COMPONENT-583",
    "18a47 TANGUT |COMPONENT-584|COMPONENT-585|COMPONENT-586|COMPONENT-587|COMPONENT-588",
    "18a4c TANGUT |COMPONENT-589|COMPONENT-590|COMPONENT-591|COMPONENT-592|COMPONENT-593",
    "18a51 TANGUT |COMPONENT-594|COMPONENT-595|COMPONENT-596|COMPONENT-597|COMPONENT-598",
    "18a56 TANGUT |COMPONENT-599|COMPONENT-600|COMPONENT-601|COMPONENT-602|COMPONENT-603",
    "18a5b TANGUT |COMPONENT-604|COMPONENT-605|COMPONENT-606|COMPONENT-607|COMPONENT-608",
    "18a60 TANGUT |COMPONENT-609|COMPONENT-610|COMPONENT-611|COMPONENT-612|COMPONENT-613",
    "18a65 TANGUT |COMPONENT-614|COMPONENT-615|COMPONENT-616|COMPONENT-617|COMPONENT-618",
    "18a6a TANGUT |COMPONENT-619|COMPONENT-620|COMPONENT-621|COMPONENT-622|COMPONENT-623",
    "18a6f TANGUT |COMPONENT-624|COMPONENT-625|COMPONENT-626|COMPONENT-627|COMPONENT-628",
    "18a74 TANGUT |COMPONENT-629|COMPONENT-630|COMPONENT-631|COMPONENT-632|COMPONENT-633",
    "18a79 TANGUT |COMPONENT-634|COMPONENT-635|COMPONENT-636|COMPONENT-637|COMPONENT-638",
    "18a7e TANGUT |COMPONENT-639|COMPONENT-640|COMPONENT-641|COMPONENT-642|COMPONENT-643",
    "18a83 TANGUT |COMPONENT-644|COMPONENT-645|COMPONENT-646|COMPONENT-647|COMPONENT-648",
    "18a88 TANGUT |COMPONENT-649|COMPONENT-650|COMPONENT-651|COMPONENT-652|COMPONENT-653",
    "18a8d TANGUT |COMPONENT-654|COMPONENT-655|COMPONENT-656|COMPONENT-657|COMPONENT-658",
    "18a92 TANGUT |COMPONENT-659|COMPONENT-660|COMPONENT-661|COMPONENT-662|COMPONENT-663",
    "18a97 TANGUT |COMPONENT-664|COMPONENT-665|COMPONENT-666|COMPONENT-667|COMPONENT-668",
    "18a9c TANGUT |COMPONENT-669|COMPONENT-670|COMPONENT-671|COMPONENT-672|COMPONENT-673",
    "18aa1 TANGUT |COMPONENT-674|COMPONENT-675|COMPONENT-676|COMPONENT-677|COMPONENT-678",
    "18aa6 TANGUT |COMPONENT-679|COMPONENT-680|COMPONENT-681|COMPONENT-682|COMPONENT-683",
    "18aab TANGUT |COMPONENT-684|COMPONENT-685|COMPONENT-686|COMPONENT-687|COMPONENT-688",
    "18ab0 TANGUT |COMPONENT-689|COMPONENT-690|COMPONENT-691|COMPONENT-692|COMPONENT-693",
    "18ab5 TANGUT |COMPONENT-694|COMPONENT-695|COMPONENT-696|COMPONENT-697|COMPONENT-698",
    "18aba TANGUT |COMPONENT-699|COMPONENT-700|COMPONENT-701|COMPONENT-702|COMPONENT-703",
    "18abf TANGUT |COMPONENT-704|COMPONENT-705|COMPONENT-706|COMPONENT-707|COMPONENT-708",
    "18ac4 TANGUT |COMPONENT-709|COMPONENT-710|COMPONENT-711|COMPONENT-712|COMPONENT-713",
    "18ac9 TANGUT |COMPONENT-714|COMPONENT-715|COMPONENT-716|COMPONENT-717|COMPONENT-718",
    "18ace TANGUT |COMPONENT-719|COMPONENT-720|COMPONENT-721|COMPONENT-722|COMPONENT-723",
    "18ad3 TANGUT |COMPONENT-724|COMPONENT-725|COMPONENT-726|COMPONENT-727|COMPONENT-728",
    "18ad8 TANGUT |COMPONENT-729|COMPONENT-730|COMPONENT-731|COMPONENT-732|COMPONENT-733",
    "18add TANGUT |COMPONENT-734|COMPONENT-735|COMPONENT-736|COMPONENT-737|COMPONENT-738",
    "18ae2 TANGUT |COMPONENT-739|COMPONENT-740|COMPONENT-741|COMPONENT-742|COMPONENT-743",
    "18ae7 TANGUT |COMPONENT-744|COMPONENT-745|COMPONENT-746|COMPONENT-747|COMPONENT-748",
    "18aec TANGUT |COMPONENT-749|COMPONENT-750|COMPONENT-751|COMPONENT-752|COMPONENT-753",
    "18af1 TANGUT |COMPONENT-754|COMPONENT-755|COMPONENT-756|COMPONENT-757|COMPONENT-758",
    "18af6 TANGUT |COMPONENT-759|COMPONENT-760|COMPONENT-761|COMPONENT-762|COMPONENT-763",
    "18afb TANGUT |COMPONENT-764|COMPONENT-765|COMPONENT-766|COMPONENT-767|COMPONENT-768",
    "1aff0 KATAKANA LETTER MINNAN |TONE-2|TONE-3|TONE-4|TONE-5",
    "1aff5 KATAKANA LETTER MINNAN |TONE-7|TONE-8",
    "1aff7 KATAKANA LETTER MINNAN NASALIZED |TONE-1|TONE-2|TONE-3|TONE-4|TONE-5",
    "1affd KATAKANA LETTER MINNAN NASALIZED |TONE-7|TONE-8"]

end Name
end Text
end DebugIndex
