/-
The data of the lunar calendar: the new years and the months of the lunar
years 1890 to 2100, the names of the calendar, the festivals and the days of
the solar terms. A key `d0204` of the dictionaries stands here as its digits.
-/

namespace LearningDemo.LunarCore

/-- The Gregorian month and day of each lunar new year from 1890 on. -/
def springFestival : List (Int × Int) :=
  [(1, 21), (2, 9), (1, 30), (2, 17), (2, 6), (1, 26), (2, 14), (2, 2), (1, 22), (2, 10), (1, 31),
   (2, 19), (2, 8), (1, 29), (2, 16), (2, 4), (1, 25), (2, 13), (2, 2), (1, 22), (2, 10), (1, 30),
   (2, 18), (2, 6), (1, 26), (2, 14), (2, 4), (1, 23), (2, 11), (2, 1), (2, 20), (2, 8), (1, 28),
   (2, 16), (2, 5), (1, 24), (2, 13), (2, 2), (1, 23), (2, 10), (1, 30), (2, 17), (2, 6), (1, 26),
   (2, 14), (2, 4), (1, 24), (2, 11), (1, 31), (2, 19), (2, 8), (1, 27), (2, 15), (2, 5), (1, 25),
   (2, 13), (2, 2), (1, 22), (2, 10), (1, 29), (2, 17), (2, 6), (1, 27), (2, 14), (2, 3), (1, 24),
   (2, 12), (1, 31), (2, 18), (2, 8), (1, 28), (2, 15), (2, 5), (1, 25), (2, 13), (2, 2), (1, 21),
   (2, 9), (1, 30), (2, 17), (2, 6), (1, 27), (2, 15), (2, 3), (1, 23), (2, 11), (1, 31), (2, 18),
   (2, 7), (1, 28), (2, 16), (2, 5), (1, 25), (2, 13), (2, 2), (2, 20), (2, 9), (1, 29), (2, 17),
   (2, 6), (1, 27), (2, 15), (2, 4), (1, 23), (2, 10), (1, 31), (2, 19), (2, 7), (1, 28), (2, 16),
   (2, 5), (1, 24), (2, 12), (2, 1), (1, 22), (2, 9), (1, 29), (2, 18), (2, 7), (1, 26), (2, 14),
   (2, 3), (1, 23), (2, 10), (1, 31), (2, 19), (2, 8), (1, 28), (2, 16), (2, 5), (1, 25), (2, 12),
   (2, 1), (1, 22), (2, 10), (1, 29), (2, 17), (2, 6), (1, 26), (2, 13), (2, 3), (1, 23), (2, 11),
   (1, 31), (2, 19), (2, 8), (1, 28), (2, 15), (2, 4), (1, 24), (2, 12), (2, 1), (1, 22), (2, 10),
   (1, 30), (2, 17), (2, 6), (1, 26), (2, 14), (2, 2), (1, 23), (2, 11), (2, 1), (2, 19), (2, 8),
   (1, 28), (2, 15), (2, 4), (1, 24), (2, 12), (2, 2), (1, 21), (2, 9), (1, 29), (2, 17), (2, 5),
   (1, 26), (2, 14), (2, 3), (1, 23), (2, 11), (1, 31), (2, 19), (2, 7), (1, 27), (2, 15), (2, 5),
   (1, 24), (2, 12), (2, 2), (1, 22), (2, 9), (1, 29), (2, 17), (2, 6), (1, 26), (2, 14), (2, 3),
   (1, 24), (2, 10), (1, 30), (2, 18), (2, 7), (1, 27), (2, 15), (2, 5), (1, 25), (2, 12), (2, 1),
   (1, 21), (2, 9)]

/-- Each lunar year from 1890 on: its leap month (0 for none), the month and
the day of its new year, and the bits that tell its long months. -/
def lunarInfo : List (Nat × Int × Int × Nat) :=
  [(2, 1, 21, 22184), (0, 2, 9, 21936), (6, 1, 30, 9656), (0, 2, 17, 9584), (0, 2, 6, 21168),
   (5, 1, 26, 43344), (0, 2, 13, 59728), (0, 2, 2, 27296), (3, 1, 22, 44368), (0, 2, 10, 43856),
   (8, 1, 30, 19304), (0, 2, 19, 19168), (0, 2, 8, 42352), (5, 1, 29, 21096), (0, 2, 16, 53856),
   (0, 2, 4, 55632), (4, 1, 25, 27304), (0, 2, 13, 22176), (0, 2, 2, 39632), (2, 1, 22, 19176),
   (0, 2, 10, 19168), (6, 1, 30, 42200), (0, 2, 18, 42192), (0, 2, 6, 53840), (5, 1, 26, 54568),
   (0, 2, 14, 46400), (0, 2, 3, 54944), (2, 1, 23, 38608), (0, 2, 11, 38320), (7, 2, 1, 18872),
   (0, 2, 20, 18800), (0, 2, 8, 42160), (5, 1, 28, 45656), (0, 2, 16, 27216), (0, 2, 5, 27968),
   (4, 1, 24, 44456), (0, 2, 13, 11104), (0, 2, 2, 38256), (2, 1, 23, 18808), (0, 2, 10, 18800),
   (6, 1, 30, 25776), (0, 2, 17, 54432), (0, 2, 6, 59984), (5, 1, 26, 27976), (0, 2, 14, 23248),
   (0, 2, 4, 11104), (3, 1, 24, 37744), (0, 2, 11, 37600), (7, 1, 31, 51560), (0, 2, 19, 51536),
   (0, 2, 8, 54432), (6, 1, 27, 55888), (0, 2, 15, 46416), (0, 2, 5, 22176), (4, 1, 25, 43736),
   (0, 2, 13, 9680), (0, 2, 2, 37584), (2, 1, 22, 51544), (0, 2, 10, 43344), (7, 1, 29, 46248),
   (0, 2, 17, 27808), (0, 2, 6, 46416), (5, 1, 27, 21928), (0, 2, 14, 19872), (0, 2, 3, 42416),
   (3, 1, 24, 21176), (0, 2, 12, 21168), (8, 1, 31, 43344), (0, 2, 18, 59728), (0, 2, 8, 27296),
   (6, 1, 28, 44368), (0, 2, 15, 43856), (0, 2, 5, 19296), (4, 1, 25, 42352), (0, 2, 13, 42352),
   (0, 2, 2, 21088), (3, 1, 21, 59696), (0, 2, 9, 55632), (7, 1, 30, 23208), (0, 2, 17, 22176),
   (0, 2, 6, 38608), (5, 1, 27, 19176), (0, 2, 15, 19152), (0, 2, 3, 42192), (4, 1, 23, 53864),
   (0, 2, 11, 53840), (8, 1, 31, 54568), (0, 2, 18, 46400), (0, 2, 7, 46752), (6, 1, 28, 38608),
   (0, 2, 16, 38320), (0, 2, 5, 18864), (4, 1, 25, 42168), (0, 2, 13, 42160), (10, 2, 2, 45656),
   (0, 2, 20, 27216), (0, 2, 9, 27968), (6, 1, 29, 44448), (0, 2, 17, 43872), (0, 2, 6, 38256),
   (5, 1, 27, 18808), (0, 2, 15, 18800), (0, 2, 4, 25776), (3, 1, 23, 27216), (0, 2, 10, 59984),
   (8, 1, 31, 27432), (0, 2, 19, 23232), (0, 2, 7, 43872), (5, 1, 28, 37736), (0, 2, 16, 37600),
   (0, 2, 5, 51552), (4, 1, 24, 54440), (0, 2, 12, 54432), (0, 2, 1, 55888), (2, 1, 22, 23208),
   (0, 2, 9, 22176), (7, 1, 29, 43736), (0, 2, 18, 9680), (0, 2, 7, 37584), (5, 1, 26, 51544),
   (0, 2, 14, 43344), (0, 2, 3, 46240), (4, 1, 23, 46416), (0, 2, 10, 44368), (9, 1, 31, 21928),
   (0, 2, 19, 19360), (0, 2, 8, 42416), (6, 1, 28, 21176), (0, 2, 16, 21168), (0, 2, 5, 43312),
   (4, 1, 25, 29864), (0, 2, 12, 27296), (0, 2, 1, 44368), (2, 1, 22, 19880), (0, 2, 10, 19296),
   (6, 1, 29, 42352), (0, 2, 17, 42208), (0, 2, 6, 53856), (5, 1, 26, 59696), (0, 2, 13, 54576),
   (0, 2, 3, 23200), (3, 1, 23, 27472), (0, 2, 11, 38608), (11, 1, 31, 19176), (0, 2, 19, 19152),
   (0, 2, 8, 42192), (6, 1, 28, 53848), (0, 2, 15, 53840), (0, 2, 4, 54560), (5, 1, 24, 55968),
   (0, 2, 12, 46496), (0, 2, 1, 22224), (2, 1, 22, 19160), (0, 2, 10, 18864), (7, 1, 30, 42168),
   (0, 2, 17, 42160), (0, 2, 6, 43600), (5, 1, 26, 46376), (0, 2, 14, 27936), (0, 2, 2, 44448),
   (3, 1, 23, 21936), (0, 2, 11, 37744), (8, 2, 1, 18808), (0, 2, 19, 18800), (0, 2, 8, 25776),
   (6, 1, 28, 27216), (0, 2, 15, 59984), (0, 2, 4, 27424), (4, 1, 24, 43872), (0, 2, 12, 43744),
   (0, 2, 2, 37600), (3, 1, 21, 51568), (0, 2, 9, 51552), (7, 1, 29, 54440), (0, 2, 17, 54432),
   (0, 2, 5, 55888), (5, 1, 26, 23208), (0, 2, 14, 22176), (0, 2, 3, 42704), (4, 1, 23, 21224),
   (0, 2, 11, 21200), (8, 1, 31, 43352), (0, 2, 19, 43344), (0, 2, 7, 46240), (6, 1, 27, 46416),
   (0, 2, 15, 44368), (0, 2, 5, 21920), (4, 1, 24, 42448), (0, 2, 12, 42416), (0, 2, 2, 21168),
   (3, 1, 22, 43320), (0, 2, 9, 26928), (7, 1, 29, 29336), (0, 2, 17, 27296), (0, 2, 6, 44368),
   (5, 1, 26, 19880), (0, 2, 14, 19296), (0, 2, 3, 42352), (4, 1, 24, 21104), (0, 2, 10, 53856),
   (8, 1, 30, 59696), (0, 2, 18, 54560), (0, 2, 7, 55968), (6, 1, 27, 27472), (0, 2, 15, 22224),
   (0, 2, 5, 19168), (4, 1, 25, 42216), (0, 2, 12, 42192), (0, 2, 1, 53584), (2, 1, 21, 55592),
   (0, 2, 9, 54560)]

def heavenlyStems : List String :=
  ["甲", "乙", "丙", "丁", "戊", "己", "庚", "辛", "壬", "癸"]

def earthlyBranches : List String :=
  ["子", "丑", "寅", "卯", "辰", "巳", "午", "未", "申", "酉", "戌", "亥"]

def zodiac : List String :=
  ["鼠", "牛", "虎", "兔", "龙", "蛇", "马", "羊", "猴", "鸡", "狗", "猪"]

def solarTerm : List String :=
  ["立春", "雨水", "惊蛰", "春分", "清明", "谷雨", "立夏", "小满", "芒种", "夏至", "小暑", "大暑", "立秋", "处暑", "白露", "秋分",
   "寒露", "霜降", "立冬", "小雪", "大雪", "冬至", "小寒", "大寒"]

def monthCn : List String :=
  ["正", "二", "三", "四", "五", "六", "七", "八", "九", "十", "冬", "腊"]

def dateCn : List String :=
  ["初一", "初二", "初三", "初四", "初五", "初六", "初七", "初八", "初九", "初十", "十一", "十二", "十三", "十四", "十五", "十六",
   "十七", "十八", "十九", "二十", "廿一", "廿二", "廿三", "廿四", "廿五", "廿六", "廿七", "廿八", "廿九", "三十", "卅一"]

/-- The days off (2) and the working days (1) of each year. -/
def worktime : List (String × List (Nat × Nat)) := [
  ("y2013",
    [(0101, 2), (0102, 2), (0103, 2), (0105, 1), (0106, 1), (0209, 2), (0210, 2), (0211, 2), (0212, 2),
     (0213, 2), (0214, 2), (0215, 2), (0216, 1), (0217, 1), (0404, 2), (0405, 2), (0406, 2), (0407, 1),
     (0427, 1), (0428, 1), (0429, 2), (0430, 2), (0501, 2), (0608, 1), (0609, 1), (0610, 2), (0611, 2),
     (0612, 2), (0919, 2), (0920, 2), (0921, 2), (0922, 1), (0929, 1), (1001, 2), (1002, 2), (1003, 2),
     (1004, 2), (1005, 2), (1006, 2), (1007, 2), (1012, 1)]),
  ("y2014",
    [(0101, 2), (0126, 1), (0131, 2), (0201, 2), (0202, 2), (0203, 2), (0204, 2), (0205, 2), (0206, 2),
     (0208, 1), (0405, 2), (0407, 2), (0501, 2), (0502, 2), (0503, 2), (0504, 1), (0602, 2), (0908, 2),
     (0928, 1), (1001, 2), (1002, 2), (1003, 2), (1004, 2), (1005, 2), (1006, 2), (1007, 2), (1011, 1)]),
  ("y2015",
    [(0101, 2), (0102, 2), (0103, 2), (0104, 1), (0215, 1), (0218, 2), (0219, 2), (0220, 2), (0221, 2),
     (0222, 2), (0223, 2), (0224, 2), (0228, 1), (0404, 2), (0405, 2), (0406, 2), (0501, 2), (0502, 2),
     (0503, 2), (0620, 2), (0621, 2), (0622, 2), (0903, 2), (0904, 2), (0905, 2), (0906, 1), (0926, 2),
     (0927, 2), (1001, 2), (1002, 2), (1003, 2), (1004, 2), (1005, 2), (1006, 2), (1007, 2), (1010, 1)]),
  ("y2016",
    [(0101, 2), (0102, 2), (0103, 2), (0206, 1), (0207, 2), (0208, 2), (0209, 2), (0210, 2), (0211, 2),
     (0212, 2), (0213, 2), (0214, 1), (0402, 2), (0403, 2), (0404, 2), (0430, 2), (0501, 2), (0502, 2),
     (0609, 2), (0610, 2), (0611, 2), (0612, 1), (0915, 2), (0916, 2), (0917, 2), (0918, 1), (1001, 2),
     (1002, 2), (1003, 2), (1004, 2), (1005, 2), (1006, 2), (1007, 2), (1008, 1), (1009, 1)]),
  ("y2017",
    [(0101, 2), (0102, 2), (0122, 1), (0127, 2), (0128, 2), (0129, 2), (0130, 2), (0131, 2), (0201, 2),
     (0202, 2), (0204, 1), (0401, 1), (0402, 2), (0403, 2), (0404, 2), (0429, 2), (0430, 2), (0501, 2),
     (0527, 1), (0528, 2), (0529, 2), (0530, 2), (0930, 1), (1001, 2), (1002, 2), (1003, 2), (1004, 2),
     (1005, 2), (1006, 2), (1007, 2), (1008, 2), (1230, 2), (1231, 2)]),
  ("y2018",
    [(0101, 2), (0211, 1), (0215, 2), (0216, 2), (0217, 2), (0218, 2), (0219, 2), (0220, 2), (0221, 2),
     (0224, 1), (0405, 2), (0406, 2), (0407, 2), (0408, 1), (0428, 1), (0429, 2), (0430, 2), (0501, 2),
     (0616, 2), (0617, 2), (0618, 2), (0922, 2), (0923, 2), (0924, 2), (0929, 1), (0930, 1), (1001, 2),
     (1002, 2), (1003, 2), (1004, 2), (1005, 2), (1006, 2), (1007, 2)])]

/-- Festivals by month and day. -/
def solarFestival : List (Nat × String) :=
  [(0101, "元旦节"), (0120, "水瓶"), (0202, "湿地日-世界湿地日"), (0210, "*国际气象节"), (0214, "情人节"), (0219, "双鱼"),
   (0301, "*国际海豹日"), (0303, "*全国爱耳日"), (0305, "学雷锋-学雷锋纪念日"), (0308, "妇女节"), (0312, "植树节 孙中山逝世纪念日"),
   (0314, "*国际警察日"), (0315, "消费者-消费者权益日"), (0317, "*中国国医节 国际航海日"), (0321, "白羊 世界森林日 消除种族歧视国际日 世界儿歌日"),
   (0322, "*世界水日"), (0323, "*世界气象日"), (0324, "*世界防治结核病日"), (0325, "*全国中小学生安全教育日"), (0330, "*巴勒斯坦国土日"),
   (0401, "愚人节 全国爱国卫生运动月 税收宣传月"), (0407, "*世界卫生日"), (0420, "金牛"), (0422, "地球日-世界地球日"),
   (0423, "*世界图书和版权日"), (0424, "*亚非新闻工作者日"), (0501, "劳动节"), (0504, "青年节"), (0505, "*碘缺乏病防治日"),
   (0508, "*世界红十字日"), (0512, "护士节-国际护士节"), (0515, "*国际家庭日"), (0517, "*世界电信日"), (0518, "博物馆-国际博物馆日"),
   (0520, "*全国学生营养日"), (0521, "双子"), (0522, "*国际生物多样性日"), (0531, "*世界无烟日"), (0601, "儿童节-国际儿童节"),
   (0605, "环境日-世界环境日"), (0606, "*全国爱眼日"), (0617, "*防治荒漠化和干旱日"), (0622, "巨蟹"), (0623, "奥林匹克-国际奥林匹克日"),
   (0625, "*全国土地日"), (0626, "*国际禁毒日"), (0701, "建党节 香港回归纪念日 中共诞辰 世界建筑日"), (0702, "*国际体育记者日"),
   (0707, "*抗日战争纪念日"), (0711, "*世界人口日"), (0723, "狮子"), (0730, "*非洲妇女日"), (0801, "建军节"),
   (0808, "*中国男子节(爸爸节)"), (0823, "处女"), (0903, "抗日战争-抗日战争胜利纪念"), (0908, "*国际扫盲日 国际新闻工作者日"),
   (0909, "*毛泽东逝世纪念"), (0910, "教师节-中国教师节"), (0914, "*世界清洁地球日"), (0916, "*国际臭氧层保护日"),
   (0918, "*九一八事变纪念日"), (0920, "*国际爱牙日"), (0923, "天秤"), (0927, "*世界旅游日"), (0928, "*孔子诞辰"),
   (1001, "国庆节 世界音乐日 国际老人节"), (1002, "*国际和平与民主自由斗争日"), (1004, "*世界动物日"), (1006, "*老人节"),
   (1008, "*全国高血压日"), (1009, "*世界邮政日 万国邮联日"), (1010, "*辛亥革命纪念日 世界精神卫生日"), (1013, "*世界保健日 国际教师节"),
   (1014, "*世界标准日"), (1015, "*国际盲人节(白手杖节)"), (1016, "*世界粮食日"), (1017, "*世界消除贫困日"), (1022, "*世界传统医药日"),
   (1024, "天蝎 联合国日 世界发展信息日"), (1031, "万圣节 世界勤俭日"), (1107, "*十月社会主义革命纪念日"), (1108, "*中国记者日"),
   (1109, "*全国消防安全宣传教育日"), (1110, "*世界青年节"), (1111, "光棍节 国际科学与和平周(本日所属的一周)"), (1112, "*孙中山诞辰纪念日"),
   (1114, "*世界糖尿病日"), (1117, "*国际大学生节 世界学生节"), (1121, "*世界问候日 世界电视日"), (1123, "射手"),
   (1129, "*国际声援巴勒斯坦人民国际日"), (1201, "艾滋病-世界艾滋病日"), (1203, "*世界残疾人日"), (1205, "*国际经济和社会发展志愿人员日"),
   (1208, "*国际儿童电视日"), (1209, "*世界足球日"), (1210, "*世界人权日"), (1212, "*西安事变纪念日"),
   (1213, "*南京大屠杀(1937年)纪念日！紧记血泪史！"), (1220, "*澳门回归纪念"), (1221, "*国际篮球日"), (1222, "摩羯"), (1224, "平安夜"),
   (1225, "圣诞节"), (1226, "*毛泽东诞辰纪念")]

/-- Festivals by lunar month and day; 0100 is the eve of the new year. -/
def lunarFestival : List (Nat × String) :=
  [(0101, "春节"), (0115, "元宵节"), (0202, "龙抬头节"), (0505, "端午节"), (0707, "七夕节"), (0715, "中元节"),
   (0815, "中秋节"), (0909, "重阳节"), (1001, "寒衣节"), (1015, "下元节"), (1208, "腊八节"), (1223, "小年"),
   (0100, "除夕")]

/-- Festivals by month, week and weekday (1 for Sunday). -/
def weekFestival : List (Nat × String) :=
  [(0513, "*世界哮喘日"), (0521, "母亲节-国际母亲节 救助贫困母亲日"), (0531, "*全国助残日"), (0533, "*国际牛奶日"),
   (0627, "*中国文化遗产日"), (0631, "父亲节"), (0717, "*国际合作节"), (0731, "*被奴役国家周"), (0933, "*国际和平日"),
   (0937, "*全民国防教育日"), (0941, "*国际聋人节 世界儿童日"), (0951, "*世界海事日 世界心脏病日"), (1012, "*国际住房日 世界建筑日 世界人居日"),
   (1024, "*国际减灾日"), (1025, "*世界视觉日"), (1145, "感恩节"), (1221, "*国际儿童电视广播日")]

/-- The days of the solar terms, year by year from 1890 on. -/
def solarTermRows : List (List Nat) := [
  [0204, 0218, 0305, 0320, 0405, 0420, 0505, 0521, 0606, 0621, 0707, 0723, 0807, 0823, 0908, 0923,
   1008, 1023, 1107, 1122, 1207, 1222, 0105, 0120],
  [0204, 0219, 0306, 0321, 0405, 0420, 0506, 0521, 0606, 0622, 0707, 0723, 0808, 0823, 0908, 0923,
   1008, 1024, 1108, 1122, 1207, 1222, 0105, 0120],
  [0204, 0219, 0305, 0320, 0404, 0419, 0505, 0520, 0605, 0621, 0707, 0722, 0807, 0823, 0907, 0922,
   1008, 1023, 1107, 1122, 1206, 1221, 0106, 0120],
  [0203, 0218, 0305, 0320, 0404, 0420, 0505, 0521, 0605, 0621, 0707, 0723, 0807, 0823, 0907, 0923,
   1008, 1023, 1107, 1122, 1207, 1221, 0105, 0120],
  [0204, 0218, 0305, 0320, 0405, 0420, 0505, 0521, 0606, 0621, 0707, 0723, 0807, 0823, 0908, 0923,
   1008, 1023, 1107, 1122, 1207, 1222, 0105, 0120],
  [0204, 0219, 0306, 0321, 0405, 0420, 0506, 0521, 0606, 0622, 0707, 0723, 0808, 0823, 0908, 0923,
   1008, 1023, 1107, 1122, 1207, 1222, 0105, 0120],
  [0204, 0219, 0305, 0320, 0404, 0419, 0505, 0520, 0605, 0621, 0707, 0722, 0807, 0823, 0907, 0922,
   1008, 1023, 1107, 1122, 1206, 1221, 0106, 0120],
  [0203, 0218, 0305, 0320, 0404, 0420, 0505, 0521, 0605, 0621, 0707, 0722, 0807, 0823, 0907, 0923,
   1008, 1023, 1107, 1122, 1207, 1221, 0105, 0120],
  [0204, 0218, 0305, 0320, 0405, 0420, 0505, 0521, 0606, 0621, 0707, 0723, 0807, 0823, 0907, 0923,
   1008, 1023, 1107, 1122, 1207, 1222, 0105, 0120],
  [0204, 0219, 0306, 0321, 0405, 0420, 0506, 0521, 0606, 0621, 0707, 0723, 0808, 0823, 0908, 0923,
   1008, 1023, 1107, 1122, 1207, 1222, 0105, 0120],
  [0204, 0219, 0306, 0321, 0405, 0420, 0506, 0521, 0606, 0622, 0707, 0723, 0808, 0823, 0908, 0923,
   1009, 1024, 1108, 1123, 1207, 1222, 0106, 0120],
  [0204, 0219, 0306, 0321, 0405, 0421, 0506, 0522, 0606, 0622, 0708, 0723, 0808, 0824, 0908, 0924,
   1009, 1024, 1108, 1123, 1208, 1222, 0106, 0121],
  [0205, 0219, 0306, 0321, 0406, 0421, 0506, 0522, 0607, 0622, 0708, 0724, 0808, 0824, 0908, 0924,
   1009, 1024, 1108, 1123, 1208, 1223, 0106, 0121],
  [0205, 0220, 0307, 0322, 0406, 0421, 0507, 0522, 0607, 0622, 0708, 0724, 0809, 0824, 0909, 0924,
   1009, 1024, 1108, 1123, 1208, 1223, 0106, 0121],
  [0205, 0220, 0306, 0321, 0405, 0420, 0506, 0521, 0606, 0622, 0707, 0723, 0808, 0823, 0908, 0923,
   1009, 1024, 1108, 1123, 1207, 1222, 0107, 0121],
  [0204, 0219, 0306, 0321, 0405, 0421, 0506, 0522, 0606, 0622, 0708, 0723, 0808, 0824, 0908, 0924,
   1009, 1024, 1108, 1123, 1208, 1222, 0106, 0121],
  [0205, 0219, 0306, 0321, 0406, 0421, 0506, 0522, 0606, 0622, 0708, 0724, 0808, 0824, 0908, 0924,
   1009, 1024, 1108, 1123, 1208, 1223, 0106, 0121],
  [0205, 0220, 0307, 0322, 0406, 0421, 0507, 0522, 0607, 0622, 0708, 0724, 0809, 0824, 0909, 0924,
   1009, 1024, 1108, 1123, 1208, 1223, 0106, 0121],
  [0205, 0220, 0306, 0321, 0405, 0420, 0506, 0521, 0606, 0622, 0707, 0723, 0808, 0823, 0908, 0923,
   1009, 1024, 1108, 1123, 1207, 1222, 0107, 0121],
  [0204, 0219, 0306, 0321, 0405, 0421, 0506, 0522, 0606, 0622, 0708, 0723, 0808, 0824, 0908, 0924,
   1009, 1024, 1108, 1123, 1208, 1222, 0106, 0121],
  [0205, 0219, 0306, 0321, 0406, 0421, 0506, 0522, 0606, 0622, 0708, 0724, 0808, 0824, 0908, 0924,
   1009, 1024, 1108, 1123, 1208, 1223, 0106, 0121],
  [0205, 0220, 0307, 0322, 0406, 0421, 0507, 0522, 0607, 0622, 0708, 0724, 0809, 0824, 0909, 0924,
   1009, 1024, 1108, 1123, 1208, 1223, 0106, 0121],
  [0205, 0220, 0306, 0321, 0405, 0420, 0506, 0521, 0606, 0622, 0707, 0723, 0808, 0823, 0908, 0923,
   1009, 1024, 1108, 1122, 1207, 1222, 0107, 0121],
  [0204, 0219, 0306, 0321, 0405, 0421, 0506, 0522, 0606, 0622, 0708, 0723, 0808, 0824, 0908, 0923,
   1009, 1024, 1108, 1123, 1208, 1222, 0106, 0120],
  [0204, 0219, 0306, 0321, 0405, 0421, 0506, 0522, 0606, 0622, 0708, 0724, 0808, 0824, 0908, 0924,
   1009, 1024, 1108, 1123, 1208, 1223, 0106, 0121],
  [0205, 0220, 0306, 0322, 0406, 0421, 0506, 0522, 0607, 0622, 0708, 0724, 0808, 0824, 0909, 0924,
   1009, 1024, 1108, 1123, 1208, 1223, 0106, 0121],
  [0205, 0220, 0306, 0321, 0405, 0420, 0506, 0521, 0606, 0622, 0707, 0723, 0808, 0823, 0908, 0923,
   1008, 1024, 1108, 1122, 1207, 1222, 0106, 0121],
  [0204, 0219, 0306, 0321, 0405, 0421, 0506, 0521, 0606, 0622, 0708, 0723, 0808, 0824, 0908, 0923,
   1009, 1024, 1108, 1123, 1208, 1222, 0106, 0120],
  [0204, 0219, 0306, 0321, 0405, 0421, 0506, 0522, 0606, 0622, 0708, 0724, 0808, 0824, 0908, 0924,
   1009, 1024, 1108, 1123, 1208, 1222, 0106, 0121],
  [0205, 0220, 0306, 0322, 0406, 0421, 0506, 0522, 0607, 0622, 0708, 0724, 0808, 0824, 0909, 0924,
   1009, 1024, 1108, 1123, 1208, 1223, 0106, 0121],
  [0205, 0220, 0306, 0321, 0405, 0420, 0506, 0521, 0606, 0622, 0707, 0723, 0808, 0823, 0908, 0923,
   1008, 1024, 1108, 1122, 1207, 1222, 0106, 0121],
  [0204, 0219, 0306, 0321, 0405, 0420, 0506, 0521, 0606, 0622, 0708, 0723, 0808, 0824, 0908, 0923,
   1009, 1024, 1108, 1123, 1207, 1222, 0106, 0120],
  [0204, 0219, 0306, 0321, 0405, 0421, 0506, 0522, 0606, 0622, 0708, 0724, 0808, 0824, 0908, 0924,
   1009, 1024, 1108, 1123, 1208, 1222, 0106, 0121],
  [0205, 0219, 0306, 0321, 0406, 0421, 0506, 0522, 0607, 0622, 0708, 0724, 0808, 0824, 0909, 0924,
   1009, 1024, 1108, 1123, 1208, 1223, 0106, 0121],
  [0205, 0220, 0306, 0321, 0405, 0420, 0506, 0521, 0606, 0622, 0707, 0723, 0808, 0823, 0908, 0923,
   1008, 1024, 1108, 1122, 1207, 1222, 0106, 0121],
  [0204, 0219, 0306, 0321, 0405, 0420, 0506, 0521, 0606, 0622, 0708, 0723, 0808, 0824, 0908, 0923,
   1009, 1024, 1108, 1123, 1207, 1222, 0106, 0120],
  [0204, 0219, 0306, 0321, 0405, 0421, 0506, 0522, 0606, 0622, 0708, 0723, 0808, 0824, 0908, 0924,
   1009, 1024, 1108, 1123, 1208, 1222, 0106, 0121],
  [0205, 0219, 0306, 0321, 0406, 0421, 0506, 0522, 0607, 0622, 0708, 0724, 0808, 0824, 0909, 0924,
   1009, 1024, 1108, 1123, 1208, 1223, 0106, 0121],
  [0205, 0220, 0306, 0321, 0405, 0420, 0506, 0521, 0606, 0622, 0707, 0723, 0808, 0823, 0908, 0923,
   1008, 1023, 1107, 1122, 1207, 1222, 0106, 0121],
  [0204, 0219, 0306, 0321, 0405, 0420, 0506, 0521, 0606, 0622, 0707, 0723, 0808, 0823, 0908, 0923,
   1009, 1024, 1108, 1123, 1207, 1222, 0106, 0120],
  [0204, 0219, 0306, 0321, 0405, 0421, 0506, 0522, 0606, 0622, 0708, 0723, 0808, 0824, 0908, 0924,
   1009, 1024, 1108, 1123, 1208, 1222, 0106, 0121],
  [0205, 0219, 0306, 0321, 0406, 0421, 0506, 0522, 0607, 0622, 0708, 0724, 0808, 0824, 0908, 0924,
   1009, 1024, 1108, 1123, 1208, 1223, 0106, 0121],
  [0205, 0220, 0306, 0321, 0405, 0420, 0506, 0521, 0606, 0621, 0707, 0723, 0808, 0823, 0908, 0923,
   1008, 1023, 1107, 1122, 1207, 1222, 0106, 0121],
  [0204, 0219, 0306, 0321, 0405, 0420, 0506, 0521, 0606, 0622, 0707, 0723, 0808, 0823, 0908, 0923,
   1009, 1024, 1108, 1123, 1207, 1222, 0106, 0120],
  [0204, 0219, 0306, 0321, 0405, 0421, 0506, 0522, 0606, 0622, 0708, 0723, 0808, 0824, 0908, 0924,
   1009, 1024, 1108, 1123, 1208, 1222, 0106, 0121],
  [0205, 0219, 0306, 0321, 0406, 0421, 0506, 0522, 0606, 0622, 0708, 0724, 0808, 0824, 0908, 0924,
   1009, 1024, 1108, 1123, 1208, 1223, 0106, 0121],
  [0205, 0220, 0306, 0321, 0405, 0420, 0506, 0521, 0606, 0621, 0707, 0723, 0808, 0823, 0908, 0923,
   1008, 1023, 1107, 1122, 1207, 1222, 0106, 0121],
  [0204, 0219, 0306, 0321, 0405, 0420, 0506, 0521, 0606, 0622, 0707, 0723, 0808, 0823, 0908, 0923,
   1009, 1024, 1108, 1123, 1207, 1222, 0106, 0120],
  [0204, 0219, 0306, 0321, 0405, 0421, 0506, 0522, 0606, 0622, 0708, 0723, 0808, 0824, 0908, 0924,
   1009, 1024, 1108, 1123, 1208, 1222, 0106, 0121],
  [0205, 0219, 0306, 0321, 0406, 0421, 0506, 0522, 0606, 0622, 0708, 0724, 0808, 0824, 0908, 0924,
   1009, 1024, 1108, 1123, 1208, 1223, 0106, 0121],
  [0205, 0220, 0306, 0321, 0405, 0420, 0506, 0521, 0606, 0621, 0707, 0723, 0808, 0823, 0908, 0923,
   1008, 1023, 1107, 1122, 1207, 1222, 0106, 0121],
  [0204, 0219, 0306, 0321, 0405, 0420, 0506, 0521, 0606, 0622, 0707, 0723, 0808, 0823, 0908, 0923,
   1009, 1024, 1108, 1123, 1207, 1222, 0106, 0120],
  [0204, 0219, 0306, 0321, 0405, 0421, 0506, 0522, 0606, 0622, 0708, 0723, 0808, 0824, 0908, 0924,
   1009, 1024, 1108, 1123, 1208, 1222, 0106, 0121],
  [0205, 0219, 0306, 0321, 0406, 0421, 0506, 0522, 0606, 0622, 0708, 0724, 0808, 0824, 0908, 0924,
   1009, 1024, 1108, 1123, 1208, 1223, 0106, 0121],
  [0205, 0220, 0306, 0321, 0405, 0420, 0505, 0521, 0606, 0621, 0707, 0723, 0808, 0823, 0908, 0923,
   1008, 1023, 1107, 1122, 1207, 1222, 0106, 0121],
  [0204, 0219, 0306, 0321, 0405, 0420, 0506, 0521, 0606, 0622, 0707, 0723, 0808, 0823, 0908, 0923,
   1008, 1024, 1108, 1122, 1207, 1222, 0106, 0120],
  [0204, 0219, 0306, 0321, 0405, 0421, 0506, 0522, 0606, 0622, 0708, 0723, 0808, 0824, 0908, 0923,
   1009, 1024, 1108, 1123, 1208, 1222, 0106, 0120],
  [0204, 0219, 0306, 0321, 0405, 0421, 0506, 0522, 0606, 0622, 0708, 0724, 0808, 0824, 0908, 0924,
   1009, 1024, 1108, 1123, 1208, 1223, 0106, 0121],
  [0205, 0220, 0305, 0321, 0405, 0420, 0505, 0521, 0606, 0621, 0707, 0723, 0807, 0823, 0908, 0923,
   1008, 1023, 1107, 1122, 1207, 1222, 0106, 0121],
  [0204, 0219, 0306, 0321, 0405, 0420, 0506, 0521, 0606, 0622, 0707, 0723, 0808, 0823, 0908, 0923,
   1008, 1024, 1108, 1122, 1207, 1222, 0105, 0120],
  [0204, 0219, 0306, 0321, 0405, 0420, 0506, 0521, 0606, 0622, 0708, 0723, 0808, 0824, 0908, 0923,
   1009, 1024, 1108, 1123, 1208, 1222, 0106, 0120],
  [0204, 0219, 0306, 0321, 0405, 0421, 0506, 0522, 0606, 0622, 0708, 0724, 0808, 0824, 0908, 0924,
   1009, 1024, 1108, 1123, 1208, 1223, 0106, 0121],
  [0205, 0220, 0305, 0321, 0405, 0420, 0505, 0521, 0606, 0621, 0707, 0723, 0807, 0823, 0908, 0923,
   1008, 1023, 1107, 1122, 1207, 1222, 0106, 0121],
  [0204, 0219, 0306, 0321, 0405, 0420, 0506, 0521, 0606, 0622, 0707, 0723, 0808, 0823, 0908, 0923,
   1008, 1024, 1108, 1122, 1207, 1222, 0105, 0120],
  [0204, 0219, 0306, 0321, 0405, 0420, 0506, 0521, 0606, 0622, 0708, 0723, 0808, 0824, 0908, 0923,
   1009, 1024, 1108, 1123, 1207, 1222, 0106, 0120],
  [0204, 0219, 0306, 0321, 0405, 0421, 0506, 0522, 0606, 0622, 0708, 0723, 0808, 0824, 0908, 0924,
   1009, 1024, 1108, 1123, 1208, 1222, 0106, 0121],
  [0205, 0220, 0305, 0320, 0405, 0420, 0505, 0521, 0606, 0621, 0707, 0723, 0807, 0823, 0908, 0923,
   1008, 1023, 1107, 1122, 1207, 1222, 0106, 0121],
  [0204, 0219, 0306, 0321, 0405, 0420, 0506, 0521, 0606, 0622, 0707, 0723, 0808, 0823, 0908, 0923,
   1008, 1024, 1108, 1122, 1207, 1222, 0105, 0120],
  [0204, 0219, 0306, 0321, 0405, 0420, 0506, 0521, 0606, 0622, 0707, 0723, 0808, 0823, 0908, 0923,
   1009, 1024, 1108, 1123, 1207, 1222, 0106, 0120],
  [0204, 0219, 0306, 0321, 0405, 0421, 0506, 0522, 0606, 0622, 0708, 0723, 0808, 0824, 0908, 0924,
   1009, 1024, 1108, 1123, 1208, 1222, 0106, 0121],
  [0205, 0219, 0305, 0320, 0405, 0420, 0505, 0521, 0606, 0621, 0707, 0723, 0807, 0823, 0907, 0923,
   1008, 1023, 1107, 1122, 1207, 1222, 0106, 0121],
  [0204, 0219, 0306, 0321, 0405, 0420, 0506, 0521, 0606, 0621, 0707, 0723, 0808, 0823, 0908, 0923,
   1008, 1023, 1107, 1122, 1207, 1222, 0105, 0120],
  [0204, 0219, 0306, 0321, 0405, 0420, 0506, 0521, 0606, 0622, 0707, 0723, 0808, 0823, 0908, 0923,
   1009, 1024, 1108, 1123, 1207, 1222, 0106, 0120],
  [0204, 0219, 0306, 0321, 0405, 0421, 0506, 0522, 0606, 0622, 0708, 0723, 0808, 0824, 0908, 0924,
   1009, 1024, 1108, 1123, 1208, 1222, 0106, 0121],
  [0205, 0219, 0305, 0320, 0405, 0420, 0505, 0521, 0606, 0621, 0707, 0723, 0807, 0823, 0907, 0923,
   1008, 1023, 1107, 1122, 1207, 1222, 0106, 0121],
  [0204, 0219, 0306, 0321, 0405, 0420, 0506, 0521, 0606, 0621, 0707, 0723, 0808, 0823, 0908, 0923,
   1008, 1023, 1107, 1122, 1207, 1222, 0105, 0120],
  [0204, 0219, 0306, 0321, 0405, 0420, 0506, 0521, 0606, 0622, 0707, 0723, 0808, 0823, 0908, 0923,
   1009, 1024, 1108, 1123, 1207, 1222, 0106, 0120],
  [0204, 0219, 0306, 0321, 0405, 0421, 0506, 0522, 0606, 0622, 0708, 0723, 0808, 0824, 0908, 0924,
   1009, 1024, 1108, 1123, 1208, 1222, 0106, 0121],
  [0205, 0219, 0305, 0320, 0405, 0420, 0505, 0521, 0605, 0621, 0707, 0723, 0807, 0823, 0907, 0923,
   1008, 1023, 1107, 1122, 1207, 1222, 0106, 0121],
  [0204, 0219, 0306, 0321, 0405, 0420, 0506, 0521, 0606, 0621, 0707, 0723, 0808, 0823, 0908, 0923,
   1008, 1023, 1107, 1122, 1207, 1222, 0105, 0120],
  [0204, 0219, 0306, 0321, 0405, 0420, 0506, 0521, 0606, 0622, 0707, 0723, 0808, 0823, 0908, 0923,
   1009, 1024, 1108, 1123, 1207, 1222, 0106, 0120],
  [0204, 0219, 0306, 0321, 0405, 0421, 0506, 0522, 0606, 0622, 0708, 0723, 0808, 0824, 0908, 0924,
   1009, 1024, 1108, 1123, 1208, 1222, 0106, 0121],
  [0205, 0219, 0305, 0320, 0405, 0420, 0505, 0521, 0605, 0621, 0707, 0723, 0807, 0823, 0907, 0923,
   1008, 1023, 1107, 1122, 1207, 1222, 0106, 0121],
  [0204, 0219, 0306, 0321, 0405, 0420, 0505, 0521, 0606, 0621, 0707, 0723, 0808, 0823, 0908, 0923,
   1008, 1023, 1107, 1122, 1207, 1222, 0105, 0120],
  [0204, 0219, 0306, 0321, 0405, 0420, 0506, 0521, 0606, 0622, 0707, 0723, 0808, 0823, 0908, 0923,
   1009, 1024, 1108, 1123, 1207, 1222, 0106, 0120],
  [0204, 0219, 0306, 0321, 0405, 0421, 0506, 0522, 0606, 0622, 0708, 0723, 0808, 0824, 0908, 0923,
   1009, 1024, 1108, 1123, 1208, 1222, 0106, 0121],
  [0205, 0219, 0305, 0320, 0404, 0420, 0505, 0521, 0605, 0621, 0707, 0723, 0807, 0823, 0907, 0923,
   1008, 1023, 1107, 1122, 1207, 1222, 0106, 0121],
  [0204, 0219, 0306, 0321, 0405, 0420, 0505, 0521, 0606, 0621, 0707, 0723, 0807, 0823, 0908, 0923,
   1008, 1023, 1107, 1122, 1207, 1222, 0105, 0120],
  [0204, 0219, 0306, 0321, 0405, 0420, 0506, 0521, 0606, 0622, 0707, 0723, 0808, 0823, 0908, 0923,
   1008, 1024, 1108, 1123, 1207, 1222, 0106, 0120],
  [0204, 0219, 0306, 0321, 0405, 0421, 0506, 0521, 0606, 0622, 0708, 0723, 0808, 0824, 0908, 0923,
   1009, 1024, 1108, 1123, 1208, 1222, 0106, 0120],
  [0205, 0219, 0305, 0320, 0404, 0420, 0505, 0521, 0605, 0621, 0707, 0723, 0807, 0823, 0907, 0923,
   1008, 1023, 1107, 1122, 1207, 1222, 0106, 0121],
  [0204, 0219, 0306, 0321, 0405, 0420, 0505, 0521, 0606, 0621, 0707, 0723, 0807, 0823, 0908, 0923,
   1008, 1023, 1107, 1122, 1207, 1222, 0105, 0120],
  [0204, 0219, 0306, 0321, 0405, 0420, 0506, 0521, 0606, 0622, 0707, 0723, 0808, 0823, 0908, 0923,
   1008, 1024, 1108, 1122, 1207, 1222, 0106, 0120],
  [0204, 0219, 0306, 0321, 0405, 0420, 0506, 0521, 0606, 0622, 0708, 0723, 0808, 0824, 0908, 0923,
   1009, 1024, 1108, 1123, 1208, 1222, 0106, 0120],
  [0204, 0219, 0305, 0320, 0404, 0420, 0505, 0521, 0605, 0621, 0707, 0722, 0807, 0823, 0907, 0923,
   1008, 1023, 1107, 1122, 1207, 1222, 0106, 0121],
  [0204, 0219, 0305, 0321, 0405, 0420, 0505, 0521, 0606, 0621, 0707, 0723, 0807, 0823, 0908, 0923,
   1008, 1023, 1107, 1122, 1207, 1222, 0105, 0120],
  [0204, 0219, 0306, 0321, 0405, 0420, 0506, 0521, 0606, 0622, 0707, 0723, 0808, 0823, 0908, 0923,
   1008, 1024, 1108, 1122, 1207, 1222, 0105, 0120],
  [0204, 0219, 0306, 0321, 0405, 0420, 0506, 0521, 0606, 0622, 0707, 0723, 0808, 0824, 0908, 0923,
   1009, 1024, 1108, 1123, 1207, 1222, 0106, 0120],
  [0204, 0219, 0305, 0320, 0404, 0420, 0505, 0521, 0605, 0621, 0707, 0722, 0807, 0823, 0907, 0923,
   1008, 1023, 1107, 1122, 1207, 1221, 0106, 0121],
  [0204, 0219, 0305, 0320, 0405, 0420, 0505, 0521, 0606, 0621, 0707, 0723, 0807, 0823, 0907, 0923,
   1008, 1023, 1107, 1122, 1207, 1222, 0105, 0120],
  [0204, 0219, 0306, 0321, 0405, 0420, 0506, 0521, 0606, 0621, 0707, 0723, 0808, 0823, 0908, 0923,
   1008, 1024, 1108, 1122, 1207, 1222, 0105, 0120],
  [0204, 0219, 0306, 0321, 0405, 0420, 0506, 0521, 0606, 0622, 0707, 0723, 0808, 0823, 0908, 0923,
   1009, 1024, 1108, 1123, 1207, 1222, 0106, 0120],
  [0204, 0219, 0305, 0320, 0404, 0420, 0505, 0521, 0605, 0621, 0707, 0722, 0807, 0823, 0907, 0923,
   1008, 1023, 1107, 1122, 1207, 1221, 0106, 0121],
  [0204, 0218, 0305, 0320, 0405, 0420, 0505, 0521, 0606, 0621, 0707, 0723, 0807, 0823, 0907, 0923,
   1008, 1023, 1107, 1122, 1207, 1222, 0105, 0120],
  [0204, 0219, 0306, 0321, 0405, 0420, 0506, 0521, 0606, 0621, 0707, 0723, 0808, 0823, 0908, 0923,
   1008, 1023, 1107, 1122, 1207, 1222, 0105, 0120],
  [0204, 0219, 0306, 0321, 0405, 0420, 0506, 0521, 0606, 0622, 0707, 0723, 0808, 0823, 0908, 0923,
   1009, 1024, 1108, 1123, 1207, 1222, 0106, 0120],
  [0204, 0219, 0305, 0320, 0404, 0420, 0505, 0521, 0605, 0621, 0707, 0722, 0807, 0823, 0907, 0923,
   1008, 1023, 1107, 1122, 1207, 1221, 0106, 0121],
  [0204, 0218, 0305, 0320, 0405, 0420, 0505, 0521, 0605, 0621, 0707, 0723, 0807, 0823, 0907, 0923,
   1008, 1023, 1107, 1122, 1207, 1222, 0105, 0120],
  [0204, 0219, 0306, 0321, 0405, 0420, 0506, 0521, 0606, 0621, 0707, 0723, 0808, 0823, 0908, 0923,
   1008, 1023, 1107, 1122, 1207, 1222, 0105, 0120],
  [0204, 0219, 0306, 0321, 0405, 0420, 0506, 0521, 0606, 0622, 0707, 0723, 0808, 0823, 0908, 0923,
   1009, 1024, 1108, 1123, 1207, 1222, 0106, 0120],
  [0204, 0219, 0305, 0320, 0404, 0420, 0505, 0521, 0605, 0621, 0707, 0722, 0807, 0823, 0907, 0923,
   1008, 1023, 1107, 1122, 1207, 1221, 0106, 0121],
  [0204, 0218, 0305, 0320, 0405, 0420, 0505, 0521, 0605, 0621, 0707, 0723, 0807, 0823, 0907, 0923,
   1008, 1023, 1107, 1122, 1207, 1222, 0105, 0120],
  [0204, 0219, 0306, 0321, 0405, 0420, 0506, 0521, 0606, 0621, 0707, 0723, 0808, 0823, 0908, 0923,
   1008, 1023, 1107, 1122, 1207, 1222, 0105, 0120],
  [0204, 0219, 0306, 0321, 0405, 0420, 0506, 0521, 0606, 0622, 0707, 0723, 0808, 0823, 0908, 0923,
   1009, 1024, 1108, 1123, 1207, 1222, 0106, 0120],
  [0204, 0219, 0305, 0320, 0404, 0420, 0505, 0521, 0605, 0621, 0707, 0722, 0807, 0823, 0907, 0923,
   1008, 1023, 1107, 1122, 1207, 1221, 0106, 0121],
  [0204, 0218, 0305, 0320, 0405, 0420, 0505, 0521, 0605, 0621, 0707, 0723, 0807, 0823, 0907, 0923,
   1008, 1023, 1107, 1122, 1207, 1222, 0105, 0120],
  [0204, 0219, 0306, 0321, 0405, 0420, 0505, 0521, 0606, 0621, 0707, 0723, 0807, 0823, 0908, 0923,
   1008, 1023, 1107, 1122, 1207, 1222, 0105, 0120],
  [0204, 0219, 0306, 0321, 0405, 0420, 0506, 0521, 0606, 0622, 0707, 0723, 0808, 0823, 0908, 0923,
   1009, 1024, 1108, 1123, 1207, 1222, 0106, 0120],
  [0204, 0219, 0305, 0320, 0404, 0420, 0505, 0521, 0605, 0621, 0707, 0722, 0807, 0823, 0907, 0922,
   1008, 1023, 1107, 1122, 1207, 1221, 0106, 0121],
  [0204, 0218, 0305, 0320, 0404, 0420, 0505, 0521, 0605, 0621, 0707, 0723, 0807, 0823, 0907, 0923,
   1008, 1023, 1107, 1122, 1207, 1222, 0105, 0120],
  [0204, 0219, 0306, 0321, 0405, 0420, 0505, 0521, 0606, 0621, 0707, 0723, 0807, 0823, 0908, 0923,
   1008, 1023, 1107, 1122, 1207, 1222, 0105, 0120],
  [0204, 0219, 0306, 0321, 0405, 0420, 0506, 0521, 0606, 0622, 0707, 0723, 0808, 0823, 0908, 0923,
   1008, 1024, 1108, 1123, 1207, 1222, 0106, 0120],
  [0204, 0219, 0305, 0320, 0404, 0420, 0505, 0520, 0605, 0621, 0707, 0722, 0807, 0823, 0907, 0922,
   1008, 1023, 1107, 1122, 1207, 1221, 0106, 0121],
  [0204, 0218, 0305, 0320, 0404, 0420, 0505, 0521, 0605, 0621, 0707, 0722, 0807, 0823, 0907, 0923,
   1008, 1023, 1107, 1122, 1207, 1222, 0105, 0120],
  [0204, 0219, 0306, 0321, 0405, 0420, 0505, 0521, 0606, 0621, 0707, 0723, 0807, 0823, 0908, 0923,
   1008, 1023, 1107, 1122, 1207, 1222, 0105, 0120],
  [0204, 0219, 0306, 0321, 0405, 0420, 0506, 0521, 0606, 0622, 0707, 0723, 0808, 0823, 0908, 0923,
   1008, 1024, 1108, 1122, 1207, 1222, 0106, 0120],
  [0204, 0219, 0305, 0320, 0404, 0419, 0505, 0520, 0605, 0621, 0707, 0722, 0807, 0823, 0907, 0922,
   1008, 1023, 1107, 1122, 1207, 1221, 0106, 0120],
  [0203, 0218, 0305, 0320, 0404, 0420, 0505, 0521, 0605, 0621, 0707, 0722, 0807, 0823, 0907, 0923,
   1008, 1023, 1107, 1122, 1207, 1222, 0105, 0120],
  [0204, 0219, 0305, 0321, 0405, 0420, 0505, 0521, 0606, 0621, 0707, 0723, 0807, 0823, 0908, 0923,
   1008, 1023, 1107, 1122, 1207, 1222, 0105, 0120],
  [0204, 0219, 0306, 0321, 0405, 0420, 0506, 0521, 0606, 0621, 0707, 0723, 0808, 0823, 0908, 0923,
   1008, 1024, 1108, 1122, 1207, 1222, 0105, 0120],
  [0204, 0219, 0305, 0320, 0404, 0419, 0505, 0520, 0605, 0621, 0706, 0722, 0807, 0822, 0907, 0922,
   1008, 1023, 1107, 1122, 1207, 1221, 0106, 0120],
  [0203, 0218, 0305, 0320, 0404, 0420, 0505, 0521, 0605, 0621, 0707, 0722, 0807, 0823, 0907, 0923,
   1008, 1023, 1107, 1122, 1207, 1221, 0105, 0120],
  [0204, 0219, 0305, 0320, 0405, 0420, 0505, 0521, 0606, 0621, 0707, 0723, 0807, 0823, 0907, 0923,
   1008, 1023, 1107, 1122, 1207, 1222, 0105, 0120],
  [0204, 0219, 0306, 0321, 0405, 0420, 0506, 0521, 0606, 0621, 0707, 0723, 0808, 0823, 0908, 0923,
   1008, 1024, 1108, 1122, 1207, 1222, 0105, 0120],
  [0204, 0219, 0305, 0320, 0404, 0419, 0505, 0520, 0605, 0621, 0706, 0722, 0807, 0822, 0907, 0922,
   1008, 1023, 1107, 1122, 1206, 1221, 0106, 0120],
  [0203, 0218, 0305, 0320, 0404, 0420, 0505, 0521, 0605, 0621, 0707, 0722, 0807, 0823, 0907, 0923,
   1008, 1023, 1107, 1122, 1207, 1221, 0105, 0120],
  [0204, 0218, 0305, 0320, 0405, 0420, 0505, 0521, 0605, 0621, 0707, 0723, 0807, 0823, 0907, 0923,
   1008, 1023, 1107, 1122, 1207, 1222, 0105, 0120],
  [0204, 0219, 0306, 0321, 0405, 0420, 0506, 0521, 0606, 0621, 0707, 0723, 0808, 0823, 0908, 0923,
   1008, 1023, 1107, 1122, 1207, 1222, 0105, 0120],
  [0204, 0219, 0305, 0320, 0404, 0419, 0505, 0520, 0605, 0621, 0706, 0722, 0807, 0822, 0907, 0922,
   1008, 1023, 1107, 1122, 1206, 1221, 0106, 0120],
  [0203, 0218, 0305, 0320, 0404, 0420, 0505, 0521, 0605, 0621, 0707, 0722, 0807, 0823, 0907, 0923,
   1008, 1023, 1107, 1122, 1207, 1221, 0105, 0120],
  [0204, 0218, 0305, 0320, 0405, 0420, 0505, 0521, 0605, 0621, 0707, 0723, 0807, 0823, 0907, 0923,
   1008, 1023, 1107, 1122, 1207, 1222, 0105, 0120],
  [0204, 0219, 0306, 0321, 0405, 0420, 0506, 0521, 0606, 0621, 0707, 0723, 0808, 0823, 0908, 0923,
   1008, 1023, 1107, 1122, 1207, 1222, 0105, 0120],
  [0204, 0219, 0305, 0320, 0404, 0419, 0505, 0520, 0605, 0621, 0706, 0722, 0807, 0822, 0907, 0922,
   1008, 1023, 1107, 1122, 1206, 1221, 0106, 0120],
  [0203, 0218, 0305, 0320, 0404, 0420, 0505, 0521, 0605, 0621, 0707, 0722, 0807, 0823, 0907, 0923,
   1008, 1023, 1107, 1122, 1207, 1221, 0105, 0120],
  [0204, 0218, 0305, 0320, 0405, 0420, 0505, 0521, 0605, 0621, 0707, 0723, 0807, 0823, 0907, 0923,
   1008, 1023, 1107, 1122, 1207, 1222, 0105, 0120],
  [0204, 0219, 0306, 0321, 0405, 0420, 0505, 0521, 0606, 0621, 0707, 0723, 0807, 0823, 0908, 0923,
   1008, 1023, 1107, 1122, 1207, 1222, 0105, 0120],
  [0204, 0219, 0305, 0320, 0404, 0419, 0505, 0520, 0605, 0621, 0706, 0722, 0807, 0822, 0907, 0922,
   1008, 1023, 1107, 1122, 1206, 1221, 0106, 0120],
  [0203, 0218, 0305, 0320, 0404, 0420, 0505, 0521, 0605, 0621, 0707, 0722, 0807, 0823, 0907, 0923,
   1008, 1023, 1107, 1122, 1207, 1221, 0105, 0120],
  [0204, 0218, 0305, 0320, 0405, 0420, 0505, 0521, 0605, 0621, 0707, 0723, 0807, 0823, 0907, 0923,
   1008, 1023, 1107, 1122, 1207, 1222, 0105, 0120],
  [0204, 0219, 0306, 0321, 0405, 0420, 0505, 0521, 0606, 0621, 0707, 0723, 0807, 0823, 0908, 0923,
   1008, 1023, 1107, 1122, 1207, 1222, 0105, 0120],
  [0204, 0219, 0305, 0320, 0404, 0419, 0505, 0520, 0605, 0621, 0706, 0722, 0807, 0822, 0907, 0922,
   1008, 1023, 1107, 1122, 1206, 1221, 0106, 0120],
  [0203, 0218, 0305, 0320, 0404, 0420, 0505, 0520, 0605, 0621, 0707, 0722, 0807, 0823, 0907, 0922,
   1008, 1023, 1107, 1122, 1207, 1221, 0105, 0120],
  [0204, 0218, 0305, 0320, 0404, 0420, 0505, 0521, 0605, 0621, 0707, 0723, 0807, 0823, 0907, 0923,
   1008, 1023, 1107, 1122, 1207, 1222, 0105, 0120],
  [0204, 0219, 0306, 0321, 0405, 0420, 0505, 0521, 0606, 0621, 0707, 0723, 0807, 0823, 0908, 0923,
   1008, 1023, 1107, 1122, 1207, 1222, 0105, 0120],
  [0204, 0219, 0305, 0320, 0404, 0419, 0505, 0520, 0605, 0621, 0706, 0722, 0807, 0822, 0907, 0922,
   1007, 1023, 1107, 1122, 1206, 1221, 0106, 0120],
  [0203, 0218, 0305, 0320, 0404, 0419, 0505, 0520, 0605, 0621, 0707, 0722, 0807, 0823, 0907, 0922,
   1008, 1023, 1107, 1122, 1207, 1221, 0105, 0120],
  [0204, 0218, 0305, 0320, 0404, 0420, 0505, 0521, 0605, 0621, 0707, 0722, 0807, 0823, 0907, 0923,
   1008, 1023, 1107, 1122, 1207, 1222, 0105, 0120],
  [0204, 0219, 0306, 0321, 0405, 0420, 0505, 0521, 0606, 0621, 0707, 0723, 0807, 0823, 0908, 0923,
   1008, 1023, 1107, 1122, 1207, 1222, 0105, 0120],
  [0204, 0219, 0305, 0320, 0404, 0419, 0505, 0520, 0605, 0620, 0706, 0722, 0807, 0822, 0907, 0922,
   1007, 1023, 1107, 1121, 1206, 1221, 0106, 0120],
  [0203, 0218, 0305, 0320, 0404, 0419, 0505, 0520, 0605, 0621, 0706, 0722, 0807, 0822, 0907, 0922,
   1008, 1023, 1107, 1122, 1207, 1221, 0105, 0119],
  [0203, 0218, 0305, 0320, 0404, 0420, 0505, 0521, 0605, 0621, 0707, 0722, 0807, 0823, 0907, 0923,
   1008, 1023, 1107, 1122, 1207, 1222, 0105, 0120],
  [0204, 0219, 0305, 0320, 0405, 0420, 0505, 0521, 0606, 0621, 0707, 0723, 0807, 0823, 0907, 0923,
   1008, 1023, 1107, 1122, 1207, 1222, 0105, 0120],
  [0204, 0219, 0305, 0320, 0404, 0419, 0505, 0520, 0605, 0620, 0706, 0722, 0807, 0822, 0907, 0922,
   1007, 1023, 1107, 1121, 1206, 1221, 0105, 0120],
  [0203, 0218, 0305, 0320, 0404, 0419, 0505, 0520, 0605, 0621, 0706, 0722, 0807, 0822, 0907, 0922,
   1008, 1023, 1107, 1122, 1207, 1221, 0105, 0119],
  [0203, 0218, 0305, 0320, 0404, 0420, 0505, 0521, 0605, 0621, 0707, 0722, 0807, 0823, 0907, 0923,
   1008, 1023, 1107, 1122, 1207, 1222, 0105, 0120],
  [0204, 0219, 0305, 0320, 0405, 0420, 0505, 0521, 0605, 0621, 0707, 0723, 0807, 0823, 0907, 0923,
   1008, 1023, 1107, 1122, 1207, 1222, 0105, 0120],
  [0204, 0219, 0305, 0320, 0404, 0419, 0505, 0520, 0605, 0620, 0706, 0722, 0807, 0822, 0907, 0922,
   1007, 1023, 1107, 1121, 1206, 1221, 0105, 0120],
  [0203, 0218, 0305, 0320, 0404, 0419, 0505, 0520, 0605, 0621, 0706, 0722, 0807, 0822, 0907, 0922,
   1008, 1023, 1107, 1122, 1206, 1221, 0105, 0119],
  [0203, 0218, 0305, 0320, 0404, 0420, 0505, 0521, 0605, 0621, 0707, 0722, 0807, 0823, 0907, 0923,
   1008, 1023, 1107, 1122, 1207, 1221, 0105, 0120],
  [0204, 0219, 0305, 0320, 0405, 0420, 0505, 0521, 0605, 0621, 0707, 0723, 0807, 0823, 0907, 0923,
   1008, 1023, 1107, 1122, 1207, 1222, 0105, 0120],
  [0204, 0219, 0305, 0320, 0404, 0419, 0505, 0520, 0605, 0620, 0706, 0722, 0807, 0822, 0907, 0922,
   1007, 1022, 1106, 1121, 1206, 1221, 0105, 0120],
  [0203, 0218, 0305, 0320, 0404, 0419, 0505, 0520, 0605, 0621, 0706, 0722, 0807, 0822, 0907, 0922,
   1008, 1023, 1107, 1122, 1206, 1221, 0105, 0119],
  [0203, 0218, 0305, 0320, 0404, 0420, 0505, 0521, 0605, 0621, 0707, 0722, 0807, 0823, 0907, 0923,
   1008, 1023, 1107, 1122, 1207, 1221, 0105, 0120],
  [0204, 0218, 0305, 0320, 0405, 0420, 0505, 0521, 0605, 0621, 0707, 0723, 0807, 0823, 0907, 0923,
   1008, 1023, 1107, 1122, 1207, 1222, 0105, 0120],
  [0204, 0219, 0305, 0320, 0404, 0419, 0505, 0520, 0605, 0620, 0706, 0722, 0807, 0822, 0907, 0922,
   1007, 1022, 1106, 1121, 1206, 1221, 0105, 0120],
  [0203, 0218, 0305, 0320, 0404, 0419, 0505, 0520, 0605, 0621, 0706, 0722, 0807, 0822, 0907, 0922,
   1008, 1023, 1107, 1122, 1206, 1221, 0105, 0119],
  [0203, 0218, 0305, 0320, 0404, 0420, 0505, 0521, 0605, 0621, 0707, 0722, 0807, 0823, 0907, 0923,
   1008, 1023, 1107, 1122, 1207, 1221, 0105, 0120],
  [0204, 0218, 0305, 0320, 0405, 0420, 0505, 0521, 0605, 0621, 0707, 0723, 0807, 0823, 0907, 0923,
   1008, 1023, 1107, 1122, 1207, 1222, 0105, 0120],
  [0204, 0219, 0305, 0320, 0404, 0419, 0504, 0520, 0605, 0620, 0706, 0722, 0806, 0822, 0907, 0922,
   1007, 1022, 1106, 1121, 1206, 1221, 0105, 0120],
  [0203, 0218, 0305, 0320, 0404, 0419, 0505, 0520, 0605, 0621, 0706, 0722, 0807, 0822, 0907, 0922,
   1008, 1023, 1107, 1122, 1206, 1221, 0105, 0119],
  [0203, 0218, 0305, 0320, 0404, 0420, 0505, 0520, 0605, 0621, 0707, 0722, 0807, 0823, 0907, 0922,
   1008, 1023, 1107, 1122, 1207, 1221, 0105, 0120],
  [0204, 0218, 0305, 0320, 0405, 0420, 0505, 0521, 0605, 0621, 0707, 0723, 0807, 0823, 0907, 0923,
   1008, 1023, 1107, 1122, 1207, 1222, 0105, 0120],
  [0204, 0219, 0305, 0320, 0404, 0419, 0504, 0520, 0605, 0620, 0706, 0722, 0806, 0822, 0907, 0922,
   1007, 1022, 1106, 1121, 1206, 1221, 0105, 0120],
  [0203, 0218, 0305, 0320, 0404, 0419, 0505, 0520, 0605, 0621, 0706, 0722, 0807, 0822, 0907, 0922,
   1007, 1023, 1107, 1122, 1206, 1221, 0105, 0119],
  [0203, 0218, 0305, 0320, 0404, 0420, 0505, 0520, 0605, 0621, 0707, 0722, 0807, 0823, 0907, 0922,
   1008, 1023, 1107, 1122, 1207, 1221, 0105, 0120],
  [0204, 0218, 0305, 0320, 0404, 0420, 0505, 0521, 0605, 0621, 0707, 0722, 0807, 0823, 0907, 0923,
   1008, 1023, 1107, 1122, 1207, 1222, 0105, 0120],
  [0204, 0219, 0305, 0320, 0404, 0419, 0504, 0520, 0605, 0620, 0706, 0722, 0806, 0822, 0907, 0922,
   1007, 1022, 1106, 1121, 1206, 1221, 0105, 0120],
  [0203, 0218, 0305, 0320, 0404, 0419, 0505, 0520, 0605, 0621, 0706, 0722, 0807, 0822, 0907, 0922,
   1007, 1023, 1107, 1122, 1206, 1221, 0105, 0119],
  [0203, 0218, 0305, 0320, 0404, 0419, 0505, 0520, 0605, 0621, 0706, 0722, 0807, 0823, 0907, 0922,
   1008, 1023, 1107, 1122, 1207, 1221, 0105, 0120],
  [0204, 0218, 0305, 0320, 0404, 0420, 0505, 0521, 0605, 0621, 0707, 0722, 0807, 0823, 0907, 0923,
   1008, 1023, 1107, 1122, 1207, 1222, 0105, 0120],
  [0204, 0219, 0305, 0320, 0404, 0419, 0504, 0520, 0605, 0620, 0706, 0722, 0806, 0822, 0907, 0922,
   1007, 1022, 1106, 1121, 1206, 1221, 0105, 0120],
  [0203, 0218, 0305, 0320, 0404, 0419, 0505, 0520, 0605, 0620, 0706, 0722, 0807, 0822, 0907, 0922,
   1007, 1023, 1107, 1121, 1206, 1221, 0105, 0119],
  [0203, 0218, 0305, 0320, 0404, 0419, 0505, 0520, 0605, 0621, 0706, 0722, 0807, 0822, 0907, 0922,
   1008, 1023, 1107, 1122, 1207, 1221, 0105, 0120],
  [0203, 0218, 0305, 0320, 0404, 0420, 0505, 0521, 0605, 0621, 0707, 0722, 0807, 0823, 0907, 0923,
   1008, 1023, 1107, 1122, 1207, 1222, 0105, 0120],
  [0204, 0219, 0304, 0319, 0404, 0419, 0504, 0520, 0605, 0620, 0706, 0722, 0806, 0822, 0906, 0922,
   1007, 1022, 1106, 1121, 1206, 1221, 0105, 0120],
  [0203, 0218, 0305, 0320, 0404, 0419, 0505, 0520, 0605, 0620, 0706, 0722, 0807, 0822, 0907, 0922,
   1007, 1023, 1107, 1121, 1206, 1221, 0104, 0119],
  [0203, 0218, 0305, 0320, 0404, 0419, 0505, 0520, 0605, 0621, 0706, 0722, 0807, 0822, 0907, 0922,
   1008, 1023, 1107, 1122, 1207, 1221, 0105, 0119],
  [0203, 0218, 0305, 0320, 0404, 0420, 0505, 0521, 0605, 0621, 0707, 0722, 0807, 0823, 0907, 0923,
   1008, 1023, 1107, 1122, 1207, 1222, 0105, 0120],
  [0204, 0219, 0304, 0319, 0404, 0419, 0504, 0520, 0604, 0620, 0706, 0722, 0806, 0822, 0906, 0922,
   1007, 1022, 1106, 1121, 1206, 1221, 0105, 0120],
  [0203, 0218, 0305, 0320, 0404, 0419, 0505, 0520, 0605, 0620, 0706, 0722, 0807, 0822, 0907, 0922,
   1007, 1023, 1107, 1121, 1206, 1221, 0104, 0119],
  [0203, 0218, 0305, 0320, 0404, 0419, 0505, 0520, 0605, 0621, 0706, 0722, 0807, 0822, 0907, 0922,
   1008, 1023, 1107, 1122, 1206, 1221, 0105, 0119],
  [0203, 0218, 0305, 0320, 0404, 0420, 0505, 0521, 0605, 0621, 0707, 0722, 0807, 0823, 0907, 0923,
   1008, 1023, 1107, 1122, 1207, 1221, 0105, 0120],
  [0204, 0219, 0304, 0319, 0404, 0419, 0504, 0520, 0604, 0620, 0706, 0722, 0806, 0822, 0906, 0922,
   1007, 1022, 1106, 1121, 1206, 1221, 0105, 0120],
  [0203, 0218, 0305, 0320, 0404, 0419, 0505, 0520, 0605, 0620, 0706, 0722, 0807, 0822, 0907, 0922,
   1007, 1022, 1106, 1121, 1206, 1221, 0104, 0119],
  [0203, 0218, 0305, 0320, 0404, 0419, 0505, 0520, 0605, 0621, 0706, 0722, 0807, 0822, 0907, 0922,
   1008, 1023, 1107, 1122, 1206, 1221, 0105, 0119],
  [0203, 0218, 0305, 0320, 0404, 0420, 0505, 0521, 0605, 0621, 0707, 0722, 0807, 0823, 0907, 0923,
   1008, 1023, 1107, 1122, 1207, 1221, 0105, 0120],
  [0204, 0218, 0304, 0319, 0404, 0419, 0504, 0520, 0604, 0620, 0706, 0722, 0806, 0822, 0906, 0922,
   1007, 1022, 1106, 1121, 1206, 1221, 0105, 0120],
  [0203, 0218, 0305, 0320, 0404, 0419, 0505, 0520, 0605, 0620, 0706, 0722, 0806, 0822, 0907, 0922,
   1007, 1022, 1106, 1121, 1206, 1221, 0104, 0119],
  [0203, 0218, 0305, 0320, 0404, 0419, 0505, 0520, 0605, 0621, 0706, 0722, 0807, 0822, 0907, 0922,
   1008, 1023, 1107, 1122, 1206, 1221, 0105, 0119],
  [0203, 0218, 0305, 0320, 0404, 0420, 0505, 0521, 0605, 0621, 0707, 0722, 0807, 0823, 0907, 0923,
   1008, 1023, 1107, 1122, 1207, 1221, 0105, 0120],
  [0204, 0218, 0305, 0320, 0405, 0420, 0505, 0521, 0605, 0621, 0707, 0723, 0807, 0823, 0907, 0923,
   1008, 1023, 1107, 1122, 1207, 1222, 0105, 0120]]

end LearningDemo.LunarCore
