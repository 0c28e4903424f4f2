import TreeQuery.Regex.Unicode.Runs

/-!
# Simple case folding

Characters that differ in case only form a class. Each class is named by its least member; the
table lists the other members in runs `first/count/step/distance`, where the distance leads from
each member of the run down to the least one of its class.
-/

namespace TreeQuery.Regex.Unicode

/-- Characters at equal distances from the least members of their classes. -/
structure FoldRun where
  first : Nat
  count : Nat
  step : Nat
  distance : Nat

namespace FoldRun

/-- Whether the run has a code point. -/
def covers (run : FoldRun) (n : Nat) : Bool :=
  run.first ≤ n && n < run.first + run.count * run.step && (n - run.first) % run.step = 0

/-- Reads a run from its written form. -/
def ofText? (text : String) : Option FoldRun :=
  match (text.splitOn "/").map String.toNat? with
  | [some first, some count, some step, some distance] => some { first, count, step, distance }
  | _ => none

end FoldRun

/-- The runs as written. -/
def foldText : String :=
  (" ".intercalate [
    "97/26/1/32 224/23/1/32 248/7/1/32 257/24/2/1 307/3/2/1 314/8/2/1 331/23/2/1 376/1/1/121",
    "378/3/2/1 383/1/1/300 387/2/2/1 392/1/1/1 396/1/1/1 402/1/1/1 409/1/1/1 417/3/2/1 424/1/1/1",
    "429/1/1/1 432/1/1/1 436/2/2/1 441/1/1/1 445/1/1/1 453/1/1/1 454/1/1/2 456/1/1/1 457/1/1/2",
    "459/1/1/1 460/1/1/2 462/8/2/1 477/1/1/79 479/9/2/1 498/1/1/1 499/1/1/2 501/1/1/1 502/1/1/97",
    "503/1/1/56 505/20/2/1 544/1/1/130 547/9/2/1 572/1/1/1 573/1/1/163 578/1/1/1 579/1/1/195",
    "583/5/2/1 595/1/1/210 596/1/1/206 598/2/1/205 601/1/1/202 603/1/1/203 608/1/1/205",
    "611/1/1/207 616/1/1/209 617/1/1/211 623/1/1/211 626/1/1/213 629/1/1/214 640/1/1/218",
    "643/1/1/218 648/1/1/218 649/1/1/69 650/2/1/217 652/1/1/71 658/1/1/219 881/2/2/1 887/1/1/1",
    "921/1/1/84 924/1/1/743 940/1/1/38 941/3/1/37 945/8/1/32 953/1/1/116 954/2/1/32 956/1/1/775",
    "957/8/2/32 958/2/2/32 962/1/1/31 964/4/2/32 972/1/1/64 973/2/1/63 976/1/1/62 977/1/1/57",
    "981/1/1/47 982/1/1/54 983/1/1/8 985/12/2/1 1008/1/1/86 1009/1/1/80 1011/1/1/116 1012/1/1/92",
    "1013/1/1/96 1016/1/1/1 1017/1/1/7 1019/1/1/1 1021/3/1/130 1072/32/1/32 1104/16/1/80",
    "1121/17/2/1 1163/27/2/1 1218/7/2/1 1231/1/1/15 1233/48/2/1 1377/38/1/48 5112/6/1/8",
    "7296/1/1/6254 7297/1/1/6253 7298/1/1/6244 7299/2/1/6242 7301/1/1/6243 7302/1/1/6236",
    "7303/1/1/6181 7306/1/1/1 7312/43/1/3008 7357/3/1/3008 7681/75/2/1 7835/1/1/59 7838/1/1/7615",
    "7841/48/2/1 7944/8/1/8 7960/6/1/8 7976/8/1/8 7992/8/1/8 8008/6/1/8 8025/4/2/8 8040/8/1/8",
    "8072/8/1/8 8088/8/1/8 8104/8/1/8 8120/2/1/8 8122/2/1/74 8124/1/1/9 8126/1/1/7289",
    "8136/4/1/86 8140/1/1/9 8147/1/1/7235 8152/2/1/8 8154/2/1/100 8163/1/1/7219 8168/2/1/8",
    "8170/2/1/112 8172/1/1/7 8184/2/1/128 8186/2/1/126 8188/1/1/9 8486/1/1/7549 8490/1/1/8415",
    "8491/1/1/8294 8526/1/1/28 8560/16/1/16 8580/1/1/1 9424/26/1/26 11312/48/1/48 11361/1/1/1",
    "11362/1/1/10743 11363/1/1/3814 11364/1/1/10727 11365/1/1/10795 11366/1/1/10792 11368/3/2/1",
    "11373/1/1/10780 11374/1/1/10749 11375/1/1/10783 11376/1/1/10782 11379/1/1/1 11382/1/1/1",
    "11390/2/1/10815 11393/50/2/1 11500/2/2/1 11507/1/1/1 11520/38/1/7264 11559/1/1/7264",
    "11565/1/1/7264 42561/5/2/1 42570/1/1/35266 42571/1/1/35267 42573/17/2/1 42625/14/2/1",
    "42787/7/2/1 42803/31/2/1 42874/2/2/1 42877/1/1/35332 42879/5/2/1 42892/1/1/1",
    "42893/1/1/42280 42897/2/2/1 42903/10/2/1 42922/1/1/42308 42923/1/1/42319 42924/1/1/42315",
    "42925/1/1/42305 42926/1/1/42308 42928/1/1/42258 42929/1/1/42282 42930/1/1/42261 42933/8/2/1",
    "42948/1/1/48 42949/1/1/42307 42950/1/1/35384 42952/2/2/1 42955/1/1/42343 42957/1/1/1",
    "42961/1/1/1 42967/3/2/1 42972/1/1/42561 42998/1/1/1 43859/1/1/928 43888/80/1/38864",
    "64262/1/1/1 65345/26/1/32 66600/40/1/40 66776/36/1/40 66967/19/2/39 66968/5/2/39",
    "66980/7/2/39 66996/3/2/39 67004/1/1/39 68800/51/1/64 68976/22/1/32 71872/32/1/32",
    "93792/32/1/32 125218/34/1/34"])

/-- The runs of all characters that are not the least of their class. -/
def foldRuns : List FoldRun := (foldText.splitOn " ").filterMap FoldRun.ofText?

/-- The least character of the class. -/
def leastFolded (c : Char) : Char :=
  match foldRuns.find? (·.covers c.toNat) with
  | some run => Char.ofNat (c.toNat - run.distance)
  | none => c

/-- All characters of the class. -/
def caseVariants (c : Char) : List Char :=
  let least := leastFolded c
  least :: (foldRuns.filter fun run => run.covers (least.toNat + run.distance)).map
    fun run => Char.ofNat (least.toNat + run.distance)

end TreeQuery.Regex.Unicode
