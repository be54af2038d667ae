import ChainCrawl.Text.Lowercase
import ChainCrawl.Text.Unprintable

namespace ChainCrawl.Web

/-- Single letters that take the place of others: a code point, and the letters that take the place
of that one, of the next one, … -/
def letterRows : List (Nat × String) :=
  [(0xA0, " "), (0xAA, "a"), (0xB2, "23"), (0xB5, "μ"), (0xB9, "1o"), (0x17F, "s"),
    (0x2B0, "hɦjrɹɻʁwy"), (0x2E0, "ɣlsxʕ"), (0x345, "ι"), (0x3D0, "βθυύϋφπ"), (0x3F0, "κρσ"),
    (0x3F5, "ε"), (0x3F9, "σ"), (0xF0C, "་"), (0x10FC, "ნ"), (0x13F8, "ᏰᏱᏲᏳᏴᏵ"),
    (0x1C80, "вдосттъѣꙋ"), (0x1D2C, "aæb"), (0x1D30, "deǝghijklmn"), (0x1D3C, "oȣprtuwaɐɑᴂbdeəɛɜg"),
    (0x1D4F, "kmŋoɔᴖᴗptuᴝɯvᴥβγδφχiruvβγρφχ"), (0x1D78, "н"),
    (0x1D9B, "ɒcɕðɜfɟɡɥɨɩɪᵻʝɭᶅʟɱɰɲɳɴɵɸʂʃƫʉʊᴜʋʌzʐʑʒθ"), (0x1E9B, "ṡ"), (0x2000, "           "),
    (0x2011, "‐"), (0x202F, " "), (0x205F, " "), (0x2070, "0i"),
    (0x2074, "456789+−=()n0123456789+−=()"), (0x2090, "aeoxəhklmnpst"), (0x2102, "c"),
    (0x2107, "ɛ"), (0x210A, "ghhhhħiill"), (0x2115, "n"), (0x2119, "pqrrr"), (0x2124, "z"),
    (0x2128, "z"), (0x212C, "bc"), (0x212F, "eef"), (0x2133, "moאבגדi"), (0x213C, "πγγπ∑"),
    (0x2145, "ddeij"), (0x2160, "i"), (0x2164, "v"), (0x2169, "x"), (0x216C, "lcdmi"),
    (0x2174, "v"), (0x2179, "x"), (0x217C, "lcdm"), (0x2460, "123456789"),
    (0x24B6, "abcdefghijklmnopqrstuvwxyzabcdefghijklmnopqrstuvwxyz0"), (0x2C7C, "jv"),
    (0x2D6F, "ⵡ"), (0x2E9F, "母"), (0x2EF3, "龟"),
    (0x2F00, "一丨丶丿乙亅二亠人儿入八冂冖冫几凵刀力勹匕匚匸十卜卩厂厶又口囗土士夂夊夕大女子宀寸小尢尸屮山巛工己巾干幺广廴廾弋弓彐彡彳"),
    (0x2F3C, "心戈戶手支攴文斗斤方无日曰月木欠止歹殳毋比毛氏气水火爪父爻爿片牙牛犬玄玉瓜瓦甘生用田疋疒癶白皮皿目矛矢石示禸禾穴立竹米糸"),
    (0x2F78, "缶网羊羽老而耒耳聿肉臣自至臼舌舛舟艮色艸虍虫血行衣襾見角言谷豆豕豸貝赤走足身車辛辰辵邑酉釆里金長門阜隶隹雨靑非面革韋韭音"),
    (0x2FB4, "頁風飛食首香馬骨高髟鬥鬯鬲鬼魚鳥鹵鹿麥麻黃黍黑黹黽鼎鼓鼠鼻齊齒龍龜龠"), (0x3000, " "), (0x3002, "."), (0x3036, "〒"),
    (0x3038, "十卄卅"), (0x3131, "ᄀᄁᆪᄂᆬᆭᄃᄄᄅᆰᆱᆲᆳᆴᆵᄚᄆᄇᄈᄡᄉᄊᄋᄌᄍᄎᄏᄐᄑ하ᅢᅣᅤᅥᅦᅧᅨᅩᅪᅫᅬᅭᅮᅯᅰᅱᅲᅳᅴᅵ"),
    (0x3165, "ᄔᄕᇇᇈᇌᇎᇓᇗᇙᄜᇝᇟᄝᄞᄠᄢᄣᄧᄩᄫᄬᄭᄮᄯᄲᄶᅀᅇᅌᇱᇲᅗᅘᅙᆄᆅᆈᆑᆒᆔᆞᆡ"), (0x3192, "一二三四上中下甲乙丙丁天地人"),
    (0x3244, "問幼文箏"), (0x3260, "ᄀᄂᄃᄅᄆᄇᄉᄋᄌᄎᄏᄐᄑᄒ가나다라마바사아자차카타파하"), (0x327E, "우"),
    (0x3280, "一二三四五六七八九十月火水木金土日株有社名特財祝労秘男女適優印注項休写正上中下左右医宗学監企資協夜"),
    (0x32D0, "アイウエオカキクケコサシスセソタチツテトナニヌネノハヒフヘホマミムメモヤユヨラリルレロワヰヱヲ"), (0xA69C, "ъь"), (0xA770, "ꝯ"),
    (0xA7F1, "scfq"), (0xA7F8, "ħœ"), (0xAB5C, "ꜧꬷɫꭒ"), (0xAB69, "ʍ"),
    (0xAB70, "ᎠᎡᎢᎣᎤᎥᎦᎧᎨᎩᎪᎫᎬᎭᎮᎯᎰᎱᎲᎳᎴᎵᎶᎷᎸᎹᎺᎻᎼᎽᎾᎿᏀᏁᏂᏃᏄᏅᏆᏇᏈᏉᏊᏋᏌᏍᏎᏏᏐᏑᏒᏓᏔᏕᏖᏗᏘᏙᏚᏛ"),
    (0xABAC, "ᏜᏝᏞᏟᏠᏡᏢᏣᏤᏥᏦᏧᏨᏩᏪᏫᏬᏭᏮᏯ"), (0xFB20, "עאדהכלםרת+"),
    (0xFB50, "ٱٱٻٻٻٻپپپپڀڀڀڀٺٺٺٺٿٿٿٿٹٹٹٹڤڤڤڤڦڦڦڦڄڄڄڄڃڃڃڃچچچچڇڇڇڇڍڍڌڌڎڎڈڈژژ"),
    (0xFB8C, "ڑڑککککگگگگڳڳڳڳڱڱڱڱںںڻڻڻڻۀۀہہہہھھھھےےۓۓ"), (0xFBD3, "ڭڭڭڭۇۇۆۆۈۈ"),
    (0xFBDE, "ۋۋۅۅۉۉېېېېىى"), (0xFBFC, "یییی"), (0xFE10, ",、"), (0xFE13, ":;!?〖〗"),
    (0xFE31, "—–__()\x7b\x7d〔〕【】《》〈〉「」『』"), (0xFE47, "[]"), (0xFE4D, "___,、"),
    (0xFE54, ";:?!—()\x7b\x7d〔〕#&*+-<>="), (0xFE68, "\\$%@"),
    (0xFE80, "ءآآأأؤؤإإئئئئااببببةةتتتتثثثثججججححححخخخخددذذررززسسسسششششصصص"),
    (0xFEBC, "صضضضضططططظظظظععععغغغغففففققققككككللللممممننننههههووىىيييي"),
    (0xFF01, "!\"#$%&'()*+,-./0123456789:;<=>?@abcdefghijklmnopqrstuvwxyz[\\"),
    (0xFF3D, "]^_`abcdefghijklmnopqrstuvwxyz\x7b|\x7d~⦅⦆.「」、・ヲァィゥェォャュョッーアイウエオカキク"),
    (0xFF79, "ケコサシスセソタチツテトナニヌネノハヒフヘホマミムメモヤユヨラリルレロワン\u3099\u309a"),
    (0xFFA1, "ᄀᄁᆪᄂᆬᆭᄃᄄᄅᆰᆱᆲᆳᆴᆵᄚᄆᄇᄈᄡᄉᄊᄋᄌᄍᄎᄏᄐᄑᄒ"), (0xFFC2, "ᅡᅢᅣᅤᅥᅦ"), (0xFFCA, "ᅧᅨᅩᅪᅫᅬ"),
    (0xFFD2, "ᅭᅮᅯᅰᅱᅲ"), (0xFFDA, "ᅳᅴᅵ"), (0xFFE0, "¢£¬"), (0xFFE4, "¦¥₩"), (0xFFE8, "│←↑→↓■○"),
    (0x10781, "ːˑæʙɓ"), (0x10787, "ʣꭦʥʤɖɗᶑɘɞʩɤɢɠʛħʜɧʄʪʫɬ𝼄ꞎɮ𝼅ʎ𝼆øɶɷqɺ𝼈ɽɾʀʨʦꭧʧʈⱱ"),
    (0x107B2, "ʏʡʢʘǀǁǂ𝼊𝼞"), (0x1CCD6, "abcdefghijklmnopqrstuvwxyz0123456789"),
    (0x1D400, "abcdefghijklmnopqrstuvwxyzabcdefghijklmnopqrstuvwxyzabcdefgh"),
    (0x1D43C, "ijklmnopqrstuvwxyzabcdefg"),
    (0x1D456, "ijklmnopqrstuvwxyzabcdefghijklmnopqrstuvwxyzabcdefghijklmnop"),
    (0x1D492, "qrstuvwxyza"), (0x1D49E, "cd"), (0x1D4A2, "g"), (0x1D4A5, "jk"), (0x1D4A9, "nopq"),
    (0x1D4AE, "stuvwxyzabcd"), (0x1D4BB, "f"), (0x1D4BD, "hijklmn"),
    (0x1D4C5, "pqrstuvwxyzabcdefghijklmnopqrstuvwxyzabcdefghijklmnopqrstuvw"), (0x1D501, "xyzab"),
    (0x1D507, "defg"), (0x1D50D, "jklmnopq"), (0x1D516, "stuvwxy"),
    (0x1D51E, "abcdefghijklmnopqrstuvwxyzab"), (0x1D53B, "defg"), (0x1D540, "ijklm"),
    (0x1D546, "o"), (0x1D54A, "stuvwxy"),
    (0x1D552, "abcdefghijklmnopqrstuvwxyzabcdefghijklmnopqrstuvwxyzabcdefgh"),
    (0x1D58E, "ijklmnopqrstuvwxyzabcdefghijklmnopqrstuvwxyzabcdefghijklmnop"),
    (0x1D5CA, "qrstuvwxyzabcdefghijklmnopqrstuvwxyzabcdefghijklmnopqrstuvwx"),
    (0x1D606, "yzabcdefghijklmnopqrstuvwxyzabcdefghijklmnopqrstuvwxyzabcdef"),
    (0x1D642, "ghijklmnopqrstuvwxyzabcdefghijklmnopqrstuvwxyzabcdefghijklmn"),
    (0x1D67E, "opqrstuvwxyzabcdefghijklmnopqrstuvwxyzıȷ"),
    (0x1D6A8, "αβγδεζηθικλμνξοπρθστυφχψω∇αβγδεζηθικλμνξοπρσστυφχψω∂εθκφρπαβ"),
    (0x1D6E4, "γδεζηθικλμνξοπρθστυφχψω∇αβγδεζηθικλμνξοπρσστυφχψω∂εθκφρπαβγδ"),
    (0x1D720, "εζηθικλμνξοπρθστυφχψω∇αβγδεζηθικλμνξοπρσστυφχψω∂εθκφρπαβγδεζ"),
    (0x1D75C, "ηθικλμνξοπρθστυφχψω∇αβγδεζηθικλμνξοπρσστυφχψω∂εθκφρπαβγδεζηθ"),
    (0x1D798, "ικλμνξοπρθστυφχψω∇αβγδεζηθικλμνξοπρσστυφχψω∂εθκφρπϝϝ"),
    (0x1D7CE, "01234567890123456789012345678901234567890123456789"),
    (0x1E030, "абвгдежзиклмопрстуфхцчшыэюꚉәіјөүӏабвгдежзиклопсуфхцчшъыґіѕџҫ"), (0x1E06C, "ꙑұ"),
    (0x1EE00, "ابجد"), (0x1EE05, "وزحطيكلمنسعفصقرشتثخذضظغٮںڡٯ"), (0x1EE21, "بج"), (0x1EE24, "ه"),
    (0x1EE27, "ح"), (0x1EE29, "يكلمنسعفصق"), (0x1EE34, "شتثخ"), (0x1EE39, "ض"), (0x1EE3B, "غ"),
    (0x1EE42, "ج"), (0x1EE47, "ح"), (0x1EE49, "ي"), (0x1EE4B, "ل"), (0x1EE4D, "نسع"),
    (0x1EE51, "صق"), (0x1EE54, "ش"), (0x1EE57, "خ"), (0x1EE59, "ض"), (0x1EE5B, "غ"), (0x1EE5D, "ں"),
    (0x1EE5F, "ٯ"), (0x1EE61, "بج"), (0x1EE64, "ه"), (0x1EE67, "حطيك"), (0x1EE6C, "منسعفصق"),
    (0x1EE74, "شتثخ"), (0x1EE79, "ضظغٮ"), (0x1EE7E, "ڡ"), (0x1EE80, "ابجدهوزحطي"),
    (0x1EE8B, "لمنسعفصقرشتثخذضظغ"), (0x1EEA1, "بجد"), (0x1EEA5, "وزحطي"),
    (0x1EEAB, "لمنسعفصقرشتثخذضظغ"), (0x1F12B, "cr"), (0x1F130, "abcdefghijklmnopqrstuvwxyz"),
    (0x1F202, "サ"), (0x1F210, "手字双デ二多解天交映無料前後再新初終生販声吹演投捕一三遊左中右指走打禁空合満有月申割営配"), (0x1F250, "得可"),
    (0x1FBF0, "0123456789")]

/-- The same for what takes more than one letter. -/
def phraseRows : List (Nat × List String) :=
  [(0xA8, [" \u0308"]), (0xAF, [" \u0304"]), (0xB4, [" \u0301"]), (0xB8, [" \u0327"]),
    (0xBC, ["1⁄4", "1⁄2", "3⁄4"]), (0x132, ["ij", "ij"]), (0x13F, ["l·", "l·"]), (0x149, ["ʼn"]),
    (0x1C4, ["dž", "dž", "dž", "lj", "lj", "lj", "nj", "nj", "nj"]), (0x1F1, ["dz", "dz", "dz"]),
    (0x2D8, [" \u0306", " \u0307", " \u030a", " \u0328", " \u0303", " \u030b"]), (0x37A, [" ι"]),
    (0x384, [" \u0301", " \u0308\u0301"]), (0x587, ["եւ"]), (0x675, ["اٴ", "وٴ", "ۇٴ", "يٴ"]),
    (0xE33, ["\u0e4dา"]), (0xEB3, ["\u0ecdາ"]), (0xEDC, ["ຫນ", "ຫມ"]),
    (0xF77, ["\u0fb2\u0f71\u0f80"]), (0xF79, ["\u0fb3\u0f71\u0f80"]), (0x1E9A, ["aʾ"]),
    (0x1F80, ["ἀι", "ἁι", "ἂι", "ἃι", "ἄι", "ἅι", "ἆι", "ἇι", "ἀι", "ἁι", "ἂι", "ἃι", "ἄι", "ἅι",
      "ἆι", "ἇι", "ἠι", "ἡι", "ἢι", "ἣι", "ἤι", "ἥι", "ἦι", "ἧι", "ἠι", "ἡι", "ἢι", "ἣι", "ἤι",
      "ἥι", "ἦι", "ἧι", "ὠι", "ὡι", "ὢι", "ὣι", "ὤι", "ὥι", "ὦι", "ὧι", "ὠι", "ὡι", "ὢι", "ὣι",
      "ὤι", "ὥι", "ὦι", "ὧι"]), (0x1FB2, ["ὰι", "αι", "άι"]), (0x1FB7, ["ᾶι"]),
    (0x1FBC, ["αι", " \u0313"]),
    (0x1FBF, [" \u0313", " \u0342", " \u0308\u0342", "ὴι", "ηι", "ήι"]), (0x1FC7, ["ῆι"]),
    (0x1FCC, ["ηι", " \u0313\u0300", " \u0313\u0301", " \u0313\u0342"]),
    (0x1FDD, [" \u0314\u0300", " \u0314\u0301", " \u0314\u0342"]),
    (0x1FED, [" \u0308\u0300", " \u0308\u0301"]), (0x1FF2, ["ὼι", "ωι", "ώι"]), (0x1FF7, ["ῶι"]),
    (0x1FFC, ["ωι", " \u0301", " \u0314"]), (0x2017, [" \u0333"]), (0x2033, ["′′", "′′′"]),
    (0x2036, ["‵‵", "‵‵‵"]), (0x203C, ["!!"]), (0x203E, [" \u0305"]), (0x2047, ["??", "?!", "!?"]),
    (0x2057, ["′′′′"]), (0x20A8, ["rs"]), (0x2100, ["a/c", "a/s"]), (0x2103, ["°c"]),
    (0x2105, ["c/o", "c/u"]), (0x2109, ["°f"]), (0x2116, ["no"]), (0x2120, ["sm", "tel", "tm"]),
    (0x213B, ["fax"]),
    (0x2150, ["1⁄7", "1⁄9", "1⁄10", "1⁄3", "2⁄3", "1⁄5", "2⁄5", "3⁄5", "4⁄5", "1⁄6", "5⁄6", "1⁄8",
      "3⁄8", "5⁄8", "7⁄8", "1⁄"]), (0x2161, ["ii", "iii", "iv"]),
    (0x2165, ["vi", "vii", "viii", "ix"]), (0x216A, ["xi", "xii"]), (0x2171, ["ii", "iii", "iv"]),
    (0x2175, ["vi", "vii", "viii", "ix"]), (0x217A, ["xi", "xii"]), (0x2189, ["0⁄3"]),
    (0x222C, ["∫∫", "∫∫∫"]), (0x222F, ["∮∮", "∮∮∮"]),
    (0x2469, ["10", "11", "12", "13", "14", "15", "16", "17", "18", "19", "20", "(1)", "(2)", "(3)",
      "(4)", "(5)", "(6)", "(7)", "(8)", "(9)", "(10)", "(11)", "(12)", "(13)", "(14)", "(15)",
      "(16)", "(17)", "(18)", "(19)", "(20)"]),
    (0x249C, ["(a)", "(b)", "(c)", "(d)", "(e)", "(f)", "(g)", "(h)", "(i)", "(j)", "(k)", "(l)",
      "(m)", "(n)", "(o)", "(p)", "(q)", "(r)", "(s)", "(t)", "(u)", "(v)", "(w)", "(x)", "(y)",
      "(z)"]), (0x2A0C, ["∫∫∫∫"]), (0x2A74, ["::=", "==", "==="]), (0x309B, [" \u3099", " \u309a"]),
    (0x309F, ["より"]), (0x30FF, ["コト"]),
    (0x3200, ["(ᄀ)", "(ᄂ)", "(ᄃ)", "(ᄅ)", "(ᄆ)", "(ᄇ)", "(ᄉ)", "(ᄋ)", "(ᄌ)", "(ᄎ)", "(ᄏ)", "(ᄐ)",
      "(ᄑ)", "(ᄒ)", "(가)", "(나)", "(다)", "(라)", "(마)", "(바)", "(사)", "(아)", "(자)", "(차)", "(카)",
      "(타)", "(파)", "(하)", "(주)", "(오전)", "(오후)"]),
    (0x3220, ["(一)", "(二)", "(三)", "(四)", "(五)", "(六)", "(七)", "(八)", "(九)", "(十)", "(月)", "(火)",
      "(水)", "(木)", "(金)", "(土)", "(日)", "(株)", "(有)", "(社)", "(名)", "(特)", "(財)", "(祝)", "(労)",
      "(代)", "(呼)", "(学)", "(監)", "(企)", "(資)", "(協)", "(祭)", "(休)", "(自)", "(至)"]),
    (0x3250, ["pte", "21", "22", "23", "24", "25", "26", "27", "28", "29", "30", "31", "32", "33",
      "34", "35"]), (0x327C, ["참고", "주의"]),
    (0x32B1, ["36", "37", "38", "39", "40", "41", "42", "43", "44", "45", "46", "47", "48", "49",
      "50", "1月", "2月", "3月", "4月", "5月", "6月", "7月", "8月", "9月", "10月", "11月", "12月", "hg", "erg",
      "ev", "ltd"]),
    (0x32FF, ["令和", "アパート", "アルファ", "アンペア", "アール", "イニング", "インチ", "ウォン", "エスクード", "エーカー", "オンス",
      "オーム", "カイリ", "カラット", "カロリー", "ガロン", "ガンマ", "ギガ", "ギニー", "キュリー", "ギルダー", "キロ", "キログラム",
      "キロメートル", "キロワット", "グラム", "グラムトン", "クルゼイロ", "クローネ", "ケース", "コルナ", "コーポ", "サイクル", "サンチーム",
      "シリング", "センチ", "セント", "ダース", "デシ", "ドル", "トン", "ナノ", "ノット", "ハイツ", "パーセント", "パーツ", "バーレル",
      "ピアストル", "ピクル", "ピコ", "ビル", "ファラッド", "フィート", "ブッシェル", "フラン", "ヘクタール", "ペソ", "ペニヒ", "ヘルツ",
      "ペンス", "ページ", "ベータ", "ポイント", "ボルト", "ホン", "ポンド", "ホール", "ホーン", "マイクロ", "マイル", "マッハ", "マルク",
      "マンション", "ミクロン", "ミリ", "ミリバール", "メガ", "メガトン", "メートル", "ヤード", "ヤール", "ユアン", "リットル", "リラ",
      "ルピー", "ルーブル", "レム", "レントゲン", "ワット", "0点", "1点", "2点", "3点", "4点", "5点", "6点", "7点", "8点",
      "9点", "10点", "11点", "12点", "13点", "14点", "15点", "16点", "17点", "18点", "19点", "20点", "21点",
      "22点", "23点", "24点", "hpa", "da", "au", "bar", "ov", "pc", "dm", "dm2", "dm3", "iu", "平成",
      "昭和", "大正", "明治", "株式会社", "pa", "na", "μa", "ma", "ka", "kb", "mb", "gb", "cal", "kcal", "pf",
      "nf", "μf", "μg", "mg", "kg", "hz", "khz", "mhz", "ghz", "thz", "μl", "ml", "dl", "kl", "fm",
      "nm", "μm", "mm", "cm", "km", "mm2", "cm2", "m2", "km2", "mm3", "cm3", "m3", "km3", "m∕s",
      "m∕s2", "pa", "kpa", "mpa", "gpa", "rad", "rad∕s", "rad∕s2", "ps", "ns", "μs", "ms", "pv",
      "nv", "μv", "mv", "kv", "mv", "pw", "nw", "μw", "mw", "kw", "mw", "kω", "mω"]),
    (0x33C3, ["bq", "cc", "cd", "c∕kg"]),
    (0x33C8, ["db", "gy", "ha", "hp", "in", "kk", "km", "kt", "lm", "ln", "log", "lx", "mb", "mil",
      "mol", "ph"]),
    (0x33D9, ["ppm", "pr", "sr", "sv", "wb", "v∕m", "a∕m", "1日", "2日", "3日", "4日", "5日", "6日", "7日",
      "8日", "9日", "10日", "11日", "12日", "13日", "14日", "15日", "16日", "17日", "18日", "19日", "20日",
      "21日", "22日", "23日", "24日", "25日", "26日", "27日", "28日", "29日", "30日", "31日", "gal"]),
    (0xFB00, ["ff", "fi", "fl", "ffi", "ffl", "st", "st"]),
    (0xFB13, ["մն", "մե", "մի", "վն", "մխ"]), (0xFB4F, ["אל"]), (0xFBDD, ["ۇٴ"]),
    (0xFBEA, ["ئا", "ئا", "ئە", "ئە", "ئو", "ئو", "ئۇ", "ئۇ", "ئۆ", "ئۆ", "ئۈ", "ئۈ", "ئې", "ئې",
      "ئې", "ئى", "ئى", "ئى"]),
    (0xFC00, ["ئج", "ئح", "ئم", "ئى", "ئي", "بج", "بح", "بخ", "بم", "بى", "بي", "تج", "تح", "تخ",
      "تم", "تى", "تي", "ثج", "ثم", "ثى", "ثي", "جح", "جم", "حج", "حم", "خج", "خح", "خم", "سج",
      "سح", "سخ", "سم", "صح", "صم", "ضج", "ضح", "ضخ", "ضم", "طح", "طم", "ظم", "عج", "عم", "غج",
      "غم", "فج", "فح", "فخ", "فم", "فى", "في", "قح", "قم", "قى", "قي", "كا", "كج", "كح", "كخ",
      "كل", "كم", "كى", "كي", "لج", "لح", "لخ", "لم", "لى", "لي", "مج", "مح", "مخ", "مم", "مى",
      "مي", "نج", "نح", "نخ", "نم", "نى", "ني", "هج", "هم", "هى", "هي", "يج", "يح", "يخ", "يم",
      "يى", "يي", "ذ\u0670", "ر\u0670", "ى\u0670", " \u064c\u0651", " \u064d\u0651",
      " \u064e\u0651", " \u064f\u0651", " \u0650\u0651", " \u0651\u0670", "ئر", "ئز", "ئم", "ئن",
      "ئى", "ئي", "بر", "بز", "بم", "بن", "بى", "بي", "تر", "تز", "تم", "تن", "تى", "تي", "ثر",
      "ثز", "ثم", "ثن", "ثى", "ثي", "فى", "في", "قى", "قي", "كا", "كل", "كم", "كى", "كي", "لم",
      "لى", "لي", "ما", "مم", "نر", "نز", "نم", "نن", "نى", "ني", "ى\u0670", "ير", "يز", "يم", "ين",
      "يى", "يي", "ئج", "ئح", "ئخ", "ئم", "ئه", "بج", "بح", "بخ", "بم", "به", "تج", "تح", "تخ",
      "تم", "ته", "ثم", "جح", "جم", "حج", "حم", "خج", "خم", "سج", "سح", "سخ", "سم", "صح", "صخ",
      "صم", "ضج", "ضح", "ضخ", "ضم", "طح", "ظم", "عج", "عم", "غج", "غم", "فج", "فح", "فخ", "فم",
      "قح", "قم", "كج", "كح", "كخ", "كل", "كم", "لج", "لح", "لخ", "لم", "له", "مج", "مح", "مخ",
      "مم", "نج", "نح", "نخ", "نم", "نه", "هج", "هم", "ه\u0670", "يج", "يح", "يخ", "يم", "يه", "ئم",
      "ئه", "بم", "به", "تم", "ته", "ثم", "ثه", "سم", "سه", "شم", "شه", "كل", "كم", "لم", "نم",
      "نه", "يم", "يه", "ـ\u064e\u0651", "ـ\u064f\u0651", "ـ\u0650\u0651", "طى", "طي", "عى", "عي",
      "غى", "غي", "سى", "سي", "شى", "شي", "حى", "حي", "جى", "جي", "خى", "خي", "صى", "صي", "ضى",
      "ضي", "شج", "شح", "شخ", "شم", "شر", "سر", "صر", "ضر", "طى", "طي", "عى", "عي", "غى", "غي",
      "سى", "سي", "شى", "شي", "حى", "حي", "جى", "جي", "خى", "خي", "صى", "صي", "ضى", "ضي", "شج",
      "شح", "شخ", "شم", "شر", "سر", "صر", "ضر", "شج", "شح", "شخ", "شم", "سه", "شه", "طم", "سج",
      "سح", "سخ", "شج", "شح", "شخ", "طم", "ظم", "ا\u064b", "ا\u064b"]),
    (0xFD50, ["تجم", "تحج", "تحج", "تحم", "تخم", "تمج", "تمح", "تمخ", "جمح", "جمح", "حمي", "حمى",
      "سحج", "سجح", "سجى", "سمح", "سمح", "سمج", "سمم", "سمم", "صحح", "صحح", "صمم", "شحم", "شحم",
      "شجي", "شمخ", "شمخ", "شمم", "شمم", "ضحى", "ضخم", "ضخم", "طمح", "طمح", "طمم", "طمي", "عجم",
      "عمم", "عمم", "عمى", "غمم", "غمي", "غمى", "فخم", "فخم", "قمح", "قمم", "لحم", "لحي", "لحى",
      "لجج", "لجج", "لخم", "لخم", "لمح", "لمح", "محج", "محم", "محي", "مجح", "مجم", "مخج", "مخم"]),
    (0xFD92, ["مجخ", "همج", "همم", "نحم", "نحى", "نجم", "نجم", "نجى", "نمي", "نمى", "يمم", "يمم",
      "بخي", "تجي", "تجى", "تخي", "تخى", "تمي", "تمى", "جمي", "جحى", "جمى", "سخى", "صحي", "شحي",
      "ضحي", "لجي", "لمي", "يحي", "يجي", "يمي", "ممي", "قمي", "نحي", "قمح", "لحم", "عمي", "كمي",
      "نجح", "مخي", "لجم", "كمم", "لجم", "نجح", "جحي", "حجي", "مجي", "فمي", "بحي", "كمم", "عجم",
      "صمم", "سخي", "نجي"]),
    (0xFDF0, ["صلے", "قلے", "الله", "اكبر", "محمد", "صلعم", "رسول", "عليه", "وسلم", "صلى",
      "صلى الله عليه وسلم", "جل جلاله", "ریال"]),
    (0xFE49, [" \u0305", " \u0305", " \u0305", " \u0305"]),
    (0xFE70, [" \u064b", "ـ\u064b", " \u064c"]), (0xFE74, [" \u064d"]),
    (0xFE76, [" \u064e", "ـ\u064e", " \u064f", "ـ\u064f", " \u0650", "ـ\u0650", " \u0651",
      "ـ\u0651", " \u0652", "ـ\u0652"]),
    (0xFEF5, ["لآ", "لآ", "لأ", "لأ", "لإ", "لإ", "لا", "لا"]), (0xFFE3, [" \u0304"]),
    (0x1F101, ["0,", "1,", "2,", "3,", "4,", "5,", "6,", "7,", "8,", "9,"]),
    (0x1F110, ["(a)", "(b)", "(c)", "(d)", "(e)", "(f)", "(g)", "(h)", "(i)", "(j)", "(k)", "(l)",
      "(m)", "(n)", "(o)", "(p)", "(q)", "(r)", "(s)", "(t)", "(u)", "(v)", "(w)", "(x)", "(y)",
      "(z)", "〔s〕"]), (0x1F12D, ["cd", "wz"]),
    (0x1F14A, ["hv", "mv", "sd", "ss", "ppv", "wc"]), (0x1F16A, ["mc", "md", "mr"]),
    (0x1F190, ["dj"]), (0x1F200, ["ほか", "ココ"]),
    (0x1F240, ["〔本〕", "〔三〕", "〔二〕", "〔安〕", "〔点〕", "〔打〕", "〔盗〕", "〔勝〕", "〔敗〕"])]

/-- Characters that fall away. -/
def droppedRanges : Text.Ranges :=
  [(0xAD, 0xAD), (0x34F, 0x34F), (0x115F, 0x1160), (0x17B4, 0x17B5), (0x180B, 0x180F),
    (0x200B, 0x200B), (0x2060, 0x2064), (0x206A, 0x206F), (0x3164, 0x3164), (0xFE00, 0xFE0F),
    (0xFEFF, 0xFEFF), (0xFFA0, 0xFFA0), (0x1BCA0, 0x1BCA3), (0x1D173, 0x1D17A), (0xE0100, 0xE01EF)]

/-- Characters with a picture that no host name may hold. -/
def refusedRanges : Text.Ranges :=
  [(0x2024, 0x2026), (0x2488, 0x249B), (0x2FF0, 0x2FFF), (0x31EF, 0x31EF), (0x33C2, 0x33C2),
    (0x33C7, 0x33C7), (0x33D8, 0x33D8), (0xFE12, 0xFE12), (0xFE19, 0xFE19), (0xFE30, 0xFE30),
    (0xFE52, 0xFE52), (0xFFFC, 0xFFFD), (0x1F100, 0x1F100)]

def keptCapitals : Text.Ranges :=
  [(0x13A0, 0x13F5)]

def isJoiner (c : Char) : Bool :=
  c = '\u200c' || c = '\u200d'

def rowAt? {α : Type} (code : Nat) (row : Nat × List α) : Option α :=
  if row.1 ≤ code then row.2[code - row.1]? else none

def replacement? (c : Char) : Option (List Char) :=
  match letterRows.findSome? fun row => rowAt? c.toNat (row.1, row.2.toList) with
  | some letter => some [letter]
  | none => (phraseRows.findSome? (rowAt? c.toNat)).map String.toList

/-- What stands for a character in the one form of host names, or none where no host name may hold
it. Small letters take the place of capitals, plain letters and digits that of their ornamental
forms, and characters that only shape the text fall away. -/
def fold? (c : Char) : Option (List Char) :=
  if c.toNat < 0x80 then some [c.toLower]
  else if droppedRanges.covers c then some []
  else match replacement? c with
    | some letters => some letters
    | none =>
      if isJoiner c || keptCapitals.covers c then some [c]
      else if Text.isUnprintable c || refusedRanges.covers c then none
      else some (Text.lowerChar c)

end ChainCrawl.Web
