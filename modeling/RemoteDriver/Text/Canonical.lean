/-!
# Characters that stand for others

Some characters are only another way to write one other character, or a character with a mark
after it.  The tables hold them in two forms: *replacements*, from a first character on, the
characters that it and those after it stand for; and *compounds*, for a second character, a row of
first characters and the row of what they make with it.  Of the compounds some are only ever taken
apart and never made.
-/

namespace RemoteDriver.Text

/-- The characters that stand for one other: a number, and what it and the next ones stand for. -/
def replacementRows : List (Nat × String) :=
  [(0x340, "\u0300\u0301"),
   (0x343, "\u0313"),
   (0x374, "\u02B9"),
   (0x37E, ";"),
   (0x387, "·"),
   (0x1F71, "ά"),
   (0x1F73, "έ"),
   (0x1F75, "ή"),
   (0x1F77, "ί"),
   (0x1F79, "ό"),
   (0x1F7B, "ύ"),
   (0x1F7D, "ώ"),
   (0x1FBB, "Ά"),
   (0x1FBE, "ι"),
   (0x1FC9, "Έ"),
   (0x1FCB, "Ή"),
   (0x1FD3, "ΐ"),
   (0x1FDB, "Ί"),
   (0x1FE3, "ΰ"),
   (0x1FEB, "Ύ"),
   (0x1FEE, "\u0385`"),
   (0x1FF9, "Ό"),
   (0x1FFB, "Ώ"),
   (0x1FFD, "\u00B4"),
   (0x2000, "\u2002\u2003"),
   (0x2126, "Ω"),
   (0x212A, "KÅ"),
   (0x2329, "〈〉"),
   (0xF900, "豈更車賈滑串句龜龜契金喇奈懶癩羅蘿螺裸邏樂洛烙珞落酪駱亂卵欄爛蘭鸞嵐濫藍襤拉臘蠟廊朗"),
   (0xF92A, "浪狼郎來冷勞擄櫓爐盧老蘆虜路露魯鷺碌祿綠菉錄鹿論壟弄籠聾牢磊賂雷壘屢樓淚漏累縷陋勒肋"),
   (0xF954, "凜凌稜綾菱陵讀拏樂諾丹寧怒率異北磻便復不泌數索參塞省葉說殺辰沈拾若掠略亮兩凉梁糧良諒"),
   (0xF97E, "量勵呂女廬旅濾礪閭驪麗黎力曆歷轢年憐戀撚漣煉璉秊練聯輦蓮連鍊列劣咽烈裂說廉念捻殮簾獵"),
   (0xF9A8, "令囹寧嶺怜玲瑩羚聆鈴零靈領例禮醴隸惡了僚寮尿料樂燎療蓼遼龍暈阮劉杻柳流溜琉留硫紐類六"),
   (0xF9D2, "戮陸倫崙淪輪律慄栗率隆利吏履易李梨泥理痢罹裏裡里離匿溺吝燐璘藺隣鱗麟林淋臨立笠粒狀炙"),
   (0xF9FC, "識什茶刺切度拓糖宅洞暴輻行降見廓兀嗀"),
   (0xFA10, "塚"),
   (0xFA12, "晴"),
   (0xFA15, "凞猪益礼神祥福靖精羽"),
   (0xFA20, "蘒"),
   (0xFA22, "諸"),
   (0xFA25, "逸都"),
   (0xFA2A, "飯飼館鶴郞隷侮僧免勉勤卑喝嘆器塀墨層屮悔慨憎懲敏既暑梅海渚漢煮爫琢碑社祉祈祐祖祝禍禎"),
   (0xFA54, "穀突節練縉繁署者臭艹艹著褐視謁謹賓贈辶逸難響頻恵𤋮舘"),
   (0xFA70, "並况全侀充冀勇勺喝啕喙嗢塚墳奄奔婢嬨廒廙彩徭惘慎愈憎慠懲戴揄搜摒敖晴朗望杖歹殺流滛滋"),
   (0xFA9A, "漢瀞煮瞧爵犯猪瑱甆画瘝瘟益盛直睊着磌窱節类絛練缾者荒華蝹襁覆視調諸請謁諾諭謹變贈輸遲"),
   (0xFAC4, "醙鉶陼難靖韛響頋頻鬒龜𢡊𢡄𣏕㮝䀘䀹𥉉𥳐𧻓齃龎"),
   (0x2F800, "丽丸乁𠄢你侮侻倂偺備僧像㒞𠘺免兔兤具𠔜㒹內再𠕋冗冤仌冬况𩇟凵刃㓟刻剆割剷㔕勇勉勤勺包"),
   (0x2F82A, "匆北卉卑博即卽卿卿卿𠨬灰及叟𠭣叫叱吆咞吸呈周咢哶唐啓啣善善喙喫喳嗂圖嘆圗噑噴切壮城埴"),
   (0x2F854, "堍型堲報墬𡓤売壷夆多夢奢𡚨𡛪姬娛娧姘婦㛮㛼嬈嬾嬾𡧈寃寘寧寳𡬘寿将当尢㞁屠屮峀岍𡷤嵃𡷦"),
   (0x2F87E, "嵮嵫嵼巡巢㠯巽帨帽幩㡢𢆃㡼庰庳庶廊𪎒廾𢌱𢌱舁弢弢㣇𣊸𦇚形彫㣣徚忍志忹悁㤺㤜悔𢛔惇慈慌"),
   (0x2F8A8, "慎慌慺憎憲憤憯懞懲懶成戛扝抱拔捐𢬌挽拼捨掃揤𢯱搢揅掩㨮摩摾撝摷㩬敏敬𣀊旣書晉㬙暑㬈㫤"),
   (0x2F8D2, "冒冕最暜肭䏙朗望朡杞杓𣏃㭉柺枅桒梅𣑭梎栟椔㮝楂榣槪檨𣚣櫛㰘次𣢧歔㱎歲殟殺殻𣪍𡴋𣫺汎𣲼"),
   (0x2F8FC, "沿泍汧洖派海流浩浸涅𣴞洴港湮㴳滋滇𣻑淹潮𣽞𣾎濆瀹瀞瀛㶖灊災灷炭𠔥煅𤉣熜𤎫爨爵牐𤘈犀犕"),
   (0x2F926, "𤜵𤠔獺王㺬玥㺸㺸瑇瑜瑱璅瓊㼛甤𤰶甾𤲒異𢆟瘐𤾡𤾸𥁄㿼䀈直𥃳𥃲𥄙𥄳眞真真睊䀹瞋䁆䂖𥐝硎碌"),
   (0x2F950, "磌䃣𥘦祖𥚚𥛅福秫䄯穀穊穏𥥼𥪧𥪧竮䈂𥮫篆築䈧𥲀糒䊠糨糣紀𥾆絣䌁緇縂繅䌴𦈨𦉇䍙𦋙罺𦌾羕翺"),
   (0x2F97A, "者𦓚𦔣聠𦖨聰𣍟䏕育脃䐋脾媵𦞧𦞵𣎓𣎜舁舄辞䑫芑芋芝劳花芳芽苦𦬼若茝荣莭茣莽菧著荓菊菌菜"),
   (0x2F9A4, "𦰶𦵫𦳕䔫蓱蓳蔖𧏊蕤𦼬䕝䕡𦾱𧃒䕫虐虜虧虩蚩蚈蜎蛢蝹蜨蝫螆䗗蟡蠁䗹衠衣𧙧裗裞䘵裺㒻𧢮𧥦䚾"),
   (0x2F9CE, "䛇誠諭變豕𧲨貫賁贛起𧼯𠠄跋趼跰𠣞軔輸𨗒𨗭邔郱鄑𨜮鄛鈸鋗鋘鉼鏹鐕𨯺開䦕閷𨵷䧦雃嶲霣𩅅𩈚"),
   (0x2F9F8, "䩮䩶韠𩐊䪲𩒖頋頋頩𩖶飢䬳餩馧駂駾䯎𩬰鬒鱀鳽䳎䳭鵧𪃎䳸𪄅𪈎𪊑麻䵖黹黾鼅鼏鼖鼻𪘀")]

/-- The characters that two others make: the number of the second, the first ones, and what each
makes with it. -/
def compoundRows : List (Nat × String × String) :=
  [(0x300, "AEIOUaeiouÜüNnЕИеиĒēŌōWwÂâĂăÊêÔôƠơƯưYyἀ", "ÀÈÌÒÙàèìòùǛǜǸǹЀЍѐѝḔḕṐṑẀẁẦầẰằỀềỒồỜờỪừỲỳἂ"),
   (0x300, "ἁἈἉἐἑἘἙἠἡἨἩἰἱἸἹὀὁὈὉὐὑὙὠὡὨὩαεηιουωΑΕΗ", "ἃἊἋἒἓἚἛἢἣἪἫἲἳἺἻὂὃὊὋὒὓὛὢὣὪὫὰὲὴὶὸὺὼᾺῈῊ"),
   (0x300, "\u1FBFϊΙ\u1FFEϋΥ\u00A8ΟΩ", "\u1FCDῒῚ\u1FDDῢῪ\u1FEDῸῺ"),
   (0x301, "AEIOUYaeiouyCcLlNnRrSsZzÜüGgÅåÆæØø", "ÁÉÍÓÚÝáéíóúýĆćĹĺŃńŔŕŚśŹźǗǘǴǵǺǻǼǽǾǿ"),
   (0x301, "\u00A8ΑΕΗΙΟΥΩϊαεηιϋουωϒГКгкÇçĒēÏïKkMmÕõ", "\u0385ΆΈΉΊΌΎΏΐάέήίΰόύώϓЃЌѓќḈḉḖḗḮḯḰḱḾḿṌṍ"),
   (0x301, "ŌōPpŨũWwÂâĂăÊêÔôƠơƯưἀἁἈἉἐἑἘἙἠἡἨἩἰἱἸἹὀὁὈ", "ṒṓṔṕṸṹẂẃẤấẮắẾếỐốỚớỨứἄἅἌἍἔἕἜἝἤἥἬἭἴἵἼἽὄὅὌ"),
   (0x301, "ὉὐὑὙὠὡὨὩ\u1FBF\u1FFE", "ὍὔὕὝὤὥὬὭ\u1FCE\u1FDE"),
   (0x302, "AEIOUaeiouCcGgHhJjSsWwYyZzẠạẸẹỌọ", "ÂÊÎÔÛâêîôûĈĉĜĝĤĥĴĵŜŝŴŵŶŷẐẑẬậỆệỘộ"),
   (0x303, "ANOanoIiUuVvÂâĂăEeÊêÔôƠơƯưYy", "ÃÑÕãñõĨĩŨũṼṽẪẫẴẵẼẽỄễỖỗỠỡỮữỸỹ"),
   (0x304, "AaEeIiOoUuÜüÄäȦȧÆæǪǫÖöÕõȮȯYyИиУуGgḶḷṚṛα", "ĀāĒēĪīŌōŪūǕǖǞǟǠǡǢǣǬǭȪȫȬȭȰȱȲȳӢӣӮӯḠḡḸḹṜṝᾱ"),
   (0x304, "ΑιΙυΥ", "ᾹῑῙῡῩ"),
   (0x306, "AaEeGgIiOoUuУИиуЖжАаЕеȨȩẠạαΑιΙυΥ", "ĂăĔĕĞğĬĭŎŏŬŭЎЙйўӁӂӐӑӖӗḜḝẶặᾰᾸῐῘῠῨ"),
   (0x307, "CcEeGgIZzAaOoBbDdFfHhMmNnPpRrSsŚśŠšṢṣTt", "ĊċĖėĠġİŻżȦȧȮȯḂḃḊḋḞḟḢḣṀṁṄṅṖṗṘṙṠṡṤṥṦṧṨṩṪṫ"),
   (0x307, "WwXxYyſ𐗒𐗚", "ẆẇẊẋẎẏẛ𐗉𐗤"),
   (0x308, "AEIOUaeiouyYΙΥιυϒЕІеіАаӘәЖжЗзИиОоӨөЭэУу", "ÄËÏÖÜäëïöüÿŸΪΫϊϋϔЁЇёїӒӓӚӛӜӝӞӟӤӥӦӧӪӫӬӭӰӱ"),
   (0x308, "ЧчЫыHhÕõŪūWwXxt", "ӴӵӸӹḦḧṎṏṺṻẄẅẌẍẗ"),
   (0x309, "AaÂâĂăEeÊêIiOoÔôƠơUuƯưYy", "ẢảẨẩẲẳẺẻỂểỈỉỎỏỔổỞởỦủỬửỶỷ"), (0x30A, "AaUuwy", "ÅåŮůẘẙ"),
   (0x30B, "OoUuУу", "ŐőŰűӲӳ"),
   (0x30C, "CcDdEeLlNnRrSsTtZzAaIiOoUuÜüGgKkƷʒjHh", "ČčĎďĚěĽľŇňŘřŠšŤťŽžǍǎǏǐǑǒǓǔǙǚǦǧǨǩǮǯǰȞȟ"),
   (0x30F, "AaEeIiOoRrUuѴѵ", "ȀȁȄȅȈȉȌȍȐȑȔȕѶѷ"), (0x311, "AaEeIiOoRrUu", "ȂȃȆȇȊȋȎȏȒȓȖȗ"),
   (0x313, "αΑεΕηΗιΙοΟυωΩρ", "ἀἈἐἘἠἨἰἸὀὈὐὠὨῤ"), (0x314, "αΑεΕηΗιΙοΟυΥωΩρΡ", "ἁἉἑἙἡἩἱἹὁὉὑὙὡὩῥῬ"),
   (0x31B, "OoUu", "ƠơƯư"),
   (0x323, "BbDdHhKkLlMmNnRrSsTtVvWwZzAaEeIiOoƠơUuƯ", "ḄḅḌḍḤḥḲḳḶḷṂṃṆṇṚṛṢṣṬṭṾṿẈẉẒẓẠạẸẹỊịỌọỢợỤụỰ"),
   (0x323, "ưYy", "ựỴỵ"), (0x324, "Uu", "Ṳṳ"), (0x325, "Aa", "Ḁḁ"), (0x326, "SsTt", "ȘșȚț"),
   (0x327, "CcGgKkLlNnRrSsTtEeDdHh", "ÇçĢģĶķĻļŅņŖŗŞşŢţȨȩḐḑḨḩ"), (0x328, "AaEeIiUuOo", "ĄąĘęĮįŲųǪǫ"),
   (0x32D, "DdEeLlNnTtUu", "ḒḓḘḙḼḽṊṋṰṱṶṷ"), (0x32E, "Hh", "Ḫḫ"), (0x330, "EeIiUu", "ḚḛḬḭṴṵ"),
   (0x331, "BbDdKkLlNnRrTtZzh", "ḆḇḎḏḴḵḺḻṈṉṞṟṮṯẔẕẖ"),
   (0x338, "←→↔⇐⇔⇒∃∈∋∣∥∼≃≅≈=≡≍<>≤≥≲≳≶≷≺≻⊂⊃⊆⊇⊢⊨⊩⊫≼≽⊑", "↚↛↮⇍⇎⇏∄∉∌∤∦≁≄≇≉≠≢≭≮≯≰≱≴≵≸≹⊀⊁⊄⊅⊈⊉⊬⊭⊮⊯⋠⋡⋢"),
   (0x338, "⊒⊲⊳⊴⊵", "⋣⋪⋫⋬⋭"),
   (0x342, "ἀἁἈἉἠἡἨἩἰἱἸἹὐὑὙὠὡὨὩα\u00A8η\u1FBFιϊ", "ἆἇἎἏἦἧἮἯἶἷἾἿὖὗὟὦὧὮὯᾶ\u1FC1ῆ\u1FCFῖῗ"),
   (0x342, "\u1FFEυϋω", "\u1FDFῦῧῶ"),
   (0x345, "ἀἁἂἃἄἅἆἇἈἉἊἋἌἍἎἏἠἡἢἣἤἥἦἧἨἩἪἫἬἭἮἯὠὡὢὣὤὥὦ", "ᾀᾁᾂᾃᾄᾅᾆᾇᾈᾉᾊᾋᾌᾍᾎᾏᾐᾑᾒᾓᾔᾕᾖᾗᾘᾙᾚᾛᾜᾝᾞᾟᾠᾡᾢᾣᾤᾥᾦ"),
   (0x345, "ὧὨὩὪὫὬὭὮὯὰαάᾶΑὴηήῆΗὼωώῶΩ", "ᾧᾨᾩᾪᾫᾬᾭᾮᾯᾲᾳᾴᾷᾼῂῃῄῇῌῲῳῴῷῼ"), (0x653, "\u0627", "\u0622"),
   (0x654, "\u0627\u0648\u064A\u06D5\u06C1\u06D2", "\u0623\u0624\u0626\u06C0\u06C2\u06D3"),
   (0x655, "\u0627", "\u0625"), (0x93C, "नरळ", "ऩऱऴ"), (0x9BE, "\u09C7", "\u09CB"),
   (0x9D7, "\u09C7", "\u09CC"), (0xB3E, "\u0B47", "\u0B4B"), (0xB56, "\u0B47", "\u0B48"),
   (0xB57, "\u0B47", "\u0B4C"), (0xBBE, "\u0BC6\u0BC7", "\u0BCA\u0BCB"),
   (0xBD7, "ஒ\u0BC6", "ஔ\u0BCC"), (0xC56, "\u0C46", "\u0C48"), (0xCC2, "\u0CC6", "\u0CCA"),
   (0xCD5, "\u0CBF\u0CC6\u0CCA", "\u0CC0\u0CC7\u0CCB"), (0xCD6, "\u0CC6", "\u0CC8"),
   (0xD3E, "\u0D46\u0D47", "\u0D4A\u0D4B"), (0xD57, "\u0D46", "\u0D4C"),
   (0xDCA, "\u0DD9\u0DDC", "\u0DDA\u0DDD"), (0xDCF, "\u0DD9", "\u0DDC"),
   (0xDDF, "\u0DD9", "\u0DDE"), (0x102E, "ဥ", "ဦ"),
   (0x1B35, "ᬅᬇᬉᬋᬍᬑ\u1B3A\u1B3C\u1B3E\u1B3F\u1B42", "ᬆᬈᬊᬌᬎᬒ\u1B3B\u1B3D\u1B40\u1B41\u1B43"),
   (0x3099, "かきくけこさしすせそたちつてとはひふへ", "がぎぐげござじずぜぞだぢづでどばびぶべ"),
   (0x3099, "ほう\u309Dカキクケコサシスセソタチツテ", "ぼゔ\u309Eガギグゲゴザジズゼゾダヂヅデ"),
   (0x3099, "トハヒフヘホウワヰヱヲ\u30FD", "ドバビブベボヴヷヸヹヺ\u30FE"), (0x309A, "はひふへほハヒフヘホ", "ぱぴぷぺぽパピプペポ"),
   (0x110BA, "𑂙𑂛𑂥", "𑂚𑂜𑂫"), (0x11127, "𑄱𑄲", "𑄮𑄯"), (0x1133E, "𑍇", "𑍋"), (0x11357, "𑍇", "𑍌"),
   (0x113B8, "𑏂", "𑏇"), (0x113BB, "𑎄", "𑎅"), (0x113C2, "𑎎", "𑎎𑏅"), (0x113C9, "𑎂𑎐𑏂", "𑎃𑎑𑏈"),
   (0x114B0, "𑒹", "𑒼"), (0x114BA, "𑒹", "𑒻"), (0x114BD, "𑒹", "𑒾"), (0x115AF, "𑖸𑖹", "𑖺𑖻"),
   (0x11930, "𑤵", "𑤸"), (0x1611E, "𖄞", "𖄡"), (0x1611F, "𖄢𖄡𖄢", "𖄣𖄤𖄦𖄧"), (0x16120, "𖄡𖄞", "𖄥𖄨"),
   (0x16129, "𖄞", "𖄢"), (0x16D67, "𖵧𖵣𖵩", "𖵨𖵩𖵪")]

/-- The characters that stand for two others without being made of them. -/
def apartRows : List (Nat × String × String) :=
  [(0x301, "\u0308", "\u0344"), (0x338, "⫝", "⫝̸"), (0x5B4, "\u05D9", "\uFB1D"),
   (0x5B7, "\u05F2\u05D0", "\uFB1F\uFB2E"), (0x5B8, "\u05D0", "\uFB2F"),
   (0x5B9, "\u05D5", "\uFB4B"),
   (0x5BC, "\u05D0\u05D1\u05D2\u05D3\u05D4\u05D5", "\uFB30\uFB31\uFB32\uFB33\uFB34\uFB35"),
   (0x5BC, "\u05D6\u05D8\u05D9\u05DA\u05DB\u05DC", "\uFB36\uFB38\uFB39\uFB3A\uFB3B\uFB3C"),
   (0x5BC, "\u05DE\u05E0\u05E1\u05E3\u05E4\u05E6", "\uFB3E\uFB40\uFB41\uFB43\uFB44\uFB46"),
   (0x5BC, "\u05E7\u05E8\u05E9\u05EA", "\uFB47\uFB48\uFB49\uFB4A"),
   (0x5BF, "\u05D1\u05DB\u05E4", "\uFB4C\uFB4D\uFB4E"), (0x5C1, "\u05E9\uFB49", "\uFB2A\uFB2C"),
   (0x5C2, "\u05E9\uFB49", "\uFB2B\uFB2D"), (0x93C, "कखगजडढफय", "क़ख़ग़ज़ड़ढ़फ़य़"), (0x9BC, "ডঢয", "ড়ঢ়য়"),
   (0xA3C, "ਲਸਖਗਜਫ", "ਲ਼ਸ਼ਖ਼ਗ਼ਜ਼ਫ਼"), (0xB3C, "ଡଢ", "ଡ଼ଢ଼"), (0xF72, "\u0F71", "\u0F73"),
   (0xF74, "\u0F71", "\u0F75"), (0xF80, "\u0FB2\u0FB3\u0F71", "\u0F76\u0F78\u0F81"),
   (0xFB5, "ཀ\u0F90", "ཀྵ\u0FB9"),
   (0xFB7, "གཌདབཛ\u0F92\u0F9C\u0FA1\u0FA6\u0FAB", "གྷཌྷདྷབྷཛྷ\u0F93\u0F9D\u0FA2\u0FA7\u0FAC"),
   (0x1D165, "𝅗𝅘𝆹𝆺", "𝅗𝅥𝅘𝅥𝆹𝅥𝆺𝅥"), (0x1D16E, "𝅘𝅥𝆹𝅥𝆺𝅥", "𝅘𝅥𝅮𝆹𝅥𝅮𝆺𝅥𝅮"), (0x1D16F, "𝅘𝅥𝆹𝅥𝆺𝅥", "𝅘𝅥𝅯𝆹𝅥𝅯𝆺𝅥𝅯"), (0x1D170, "𝅘𝅥", "𝅘𝅥𝅰"),
   (0x1D171, "𝅘𝅥", "𝅘𝅥𝅱"), (0x1D172, "𝅘𝅥", "𝅘𝅥𝅲")]

/-- Two characters and the one that stands for them. -/
structure Compound where
  /-- The first of the two. -/
  first : Char
  /-- The second of the two. -/
  second : Char
  /-- The character that stands for both. -/
  whole : Char

/-- The compounds of rows. -/
def compoundsOf (rows : List (Nat × String × String)) : List Compound :=
  rows.flatMap fun (second, firsts, wholes) =>
    (firsts.toList.zip wholes.toList).map fun (first, whole) => ⟨first, Char.ofNat second, whole⟩

/-- The compounds that two characters make. -/
def compounds : List Compound := compoundsOf compoundRows

/-- The compounds that are only taken apart. -/
def apart : List Compound := compoundsOf apartRows

/-- Each character that stands for one other, with that one. -/
def replacements : List (Nat × Char) :=
  replacementRows.flatMap fun (first, others) =>
    others.toList.zipIdx.map fun (other, i) => (first + i, other)

end RemoteDriver.Text
