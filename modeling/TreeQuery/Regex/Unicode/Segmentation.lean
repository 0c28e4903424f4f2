import TreeQuery.Regex.Unicode.Runs

/-!
# Segmentation properties

The classes of characters that decide where grapheme clusters, words and sentences break, by their
short names. `XX` is the class of all characters that play no part.
-/

namespace TreeQuery.Regex.Unicode

/-- The grapheme cluster break classes of all code points. -/
def graphemeBreakRuns : Runs := Runs.ofText
  (" ".intercalate [
    "10=CN 1=LF 2=CN 1=CR 18=CN 95=XX 33=CN 13=XX 1=CN 594=XX 112=EX 275=XX 7=EX 263=XX 45=EX",
    "1=XX 1=EX 1=XX 2=EX 1=XX 2=EX 1=XX 1=EX 56=XX 6=PP 10=XX 11=EX 1=XX 1=CN 46=XX 21=EX 16=XX",
    "1=EX 101=XX 7=EX 1=PP 1=XX 6=EX 2=XX 2=EX 1=XX 4=EX 33=XX 1=PP 1=XX 1=EX 30=XX 27=EX 91=XX",
    "11=EX 58=XX 9=EX 9=XX 1=EX 24=XX 4=EX 1=XX 9=EX 1=XX 3=EX 1=XX 5=EX 43=XX 3=EX 52=XX 2=PP",
    "5=XX 9=EX 42=XX 24=EX 1=PP 32=EX 1=SM 54=XX 1=EX 1=SM 1=EX 1=XX 3=SM 8=EX 4=SM 1=EX 2=SM",
    "1=XX 7=EX 10=XX 2=EX 29=XX 1=EX 2=SM 56=XX 1=EX 1=XX 1=EX 2=SM 4=EX 2=XX 2=SM 2=XX 2=SM",
    "1=EX 9=XX 1=EX 10=XX 2=EX 26=XX 1=EX 2=XX 2=EX 1=SM 56=XX 1=EX 1=XX 3=SM 2=EX 4=XX 2=EX",
    "2=XX 3=EX 3=XX 1=EX 30=XX 2=EX 3=XX 1=EX 11=XX 2=EX 1=SM 56=XX 1=EX 1=XX 3=SM 5=EX 1=XX",
    "2=EX 1=SM 1=XX 2=SM 1=EX 20=XX 2=EX 22=XX 6=EX 1=XX 1=EX 2=SM 56=XX 1=EX 1=XX 2=EX 1=SM",
    "4=EX 2=XX 2=SM 2=XX 2=SM 1=EX 7=XX 3=EX 10=XX 2=EX 30=XX 1=EX 59=XX 1=EX 1=SM 1=EX 2=SM",
    "3=XX 3=SM 1=XX 3=SM 1=EX 9=XX 1=EX 40=XX 1=EX 3=SM 1=EX 55=XX 1=EX 1=XX 3=EX 4=SM 1=XX 3=EX",
    "1=XX 4=EX 7=XX 2=EX 11=XX 2=EX 29=XX 1=EX 2=SM 56=XX 1=EX 1=XX 1=SM 1=EX 2=SM 1=EX 2=SM",
    "1=XX 1=EX 2=SM 1=XX 2=SM 2=EX 7=XX 2=EX 11=XX 2=EX 15=XX 1=SM 12=XX 2=EX 2=SM 55=XX 2=EX",
    "1=XX 1=EX 2=SM 4=EX 1=XX 3=SM 1=XX 3=SM 1=EX 1=PP 8=XX 1=EX 10=XX 2=EX 29=XX 1=EX 2=SM",
    "70=XX 1=EX 4=XX 1=EX 2=SM 3=EX 1=XX 1=EX 1=XX 7=SM 1=EX 18=XX 2=SM 61=XX 1=EX 1=XX 1=SM",
    "7=EX 12=XX 8=EX 98=XX 1=EX 1=XX 1=SM 9=EX 11=XX 7=EX 73=XX 2=EX 27=XX 1=EX 1=XX 1=EX 1=XX",
    "1=EX 4=XX 2=SM 49=XX 14=EX 1=SM 5=EX 1=XX 2=EX 5=XX 11=EX 1=XX 36=EX 9=XX 1=EX 102=XX 4=EX",
    "1=SM 6=EX 1=XX 2=EX 2=SM 2=EX 23=XX 2=SM 2=EX 4=XX 3=EX 16=XX 4=EX 13=XX 1=EX 1=XX 1=SM",
    "2=EX 6=XX 1=EX 15=XX 1=EX 98=XX 96=L 72=V 88=T 349=XX 3=EX 946=XX 3=EX 1=SM 28=XX 2=EX 1=SM",
    "29=XX 2=EX 30=XX 2=EX 64=XX 2=EX 1=SM 7=EX 8=SM 1=EX 2=SM 11=EX 9=XX 1=EX 45=XX 3=EX 1=CN",
    "1=EX 117=XX 2=EX 34=XX 1=EX 118=XX 3=EX 4=SM 2=EX 3=SM 4=XX 2=SM 1=EX 6=SM 3=EX 219=XX 2=EX",
    "2=SM 1=EX 57=XX 1=SM 1=EX 1=SM 7=EX 1=XX 1=EX 1=XX 1=EX 2=XX 8=EX 6=SM 10=EX 2=XX 1=EX",
    "48=XX 31=EX 49=XX 4=EX 1=SM 47=XX 7=EX 1=SM 1=EX 5=SM 1=EX 2=SM 38=XX 9=EX 12=XX 2=EX 1=SM",
    "30=XX 1=SM 4=EX 2=SM 2=EX 1=SM 3=EX 56=XX 1=EX 1=SM 2=EX 3=SM 1=EX 1=SM 3=EX 2=SM 48=XX",
    "8=SM 8=EX 2=SM 2=EX 152=XX 3=EX 1=XX 13=EX 1=SM 7=EX 4=XX 1=EX 6=XX 1=EX 2=XX 1=SM 2=EX",
    "198=XX 64=EX 523=XX 1=CN 1=EX 1=ZWJ 2=CN 24=XX 7=CN 49=XX 16=CN 96=XX 33=EX 3070=XX 3=EX",
    "141=XX 1=EX 96=XX 32=EX 554=XX 6=EX 105=XX 2=EX 30164=XX 4=EX 1=XX 10=EX 32=XX 2=EX 80=XX",
    "2=EX 272=XX 1=EX 3=XX 1=EX 4=XX 1=EX 23=XX 2=SM 2=EX 1=SM 4=XX 1=EX 83=XX 2=SM 50=XX 16=SM",
    "2=EX 26=XX 18=EX 13=XX 1=EX 38=XX 8=EX 25=XX 11=EX 2=SM 12=XX 29=L 3=XX 3=EX 1=SM 47=XX",
    "1=EX 2=SM 4=EX 2=SM 2=EX 3=SM 36=XX 1=EX 67=XX 6=EX 2=SM 2=EX 2=SM 2=EX 12=XX 1=EX 8=XX",
    "1=EX 1=SM 46=XX 1=EX 51=XX 1=EX 1=XX 3=EX 2=XX 2=EX 5=XX 2=EX 1=XX 1=EX 41=XX 1=SM 2=EX",
    "2=SM 5=XX 1=SM 1=EX 236=XX 2=SM 1=EX 2=SM 1=EX 2=SM 1=XX 1=SM 1=EX 18=XX 1=LV 27=LVT 1=LV",
    "27=LVT 1=LV 27=LVT 1=LV 27=LVT 1=LV 27=LVT 1=LV 27=LVT 1=LV 27=LVT 1=LV 27=LVT 1=LV 27=LVT",
    "1=LV 27=LVT 1=LV 27=LVT 1=LV 27=LVT 1=LV 27=LVT 1=LV 27=LVT 1=LV 27=LVT 1=LV 27=LVT 1=LV",
    "27=LVT 1=LV 27=LVT 1=LV 27=LVT 1=LV 27=LVT 1=LV 27=LVT 1=LV 27=LVT 1=LV 27=LVT 1=LV 27=LVT",
    "1=LV 27=LVT 1=LV 27=LVT 1=LV 27=LVT 1=LV 27=LVT 1=LV 27=LVT 1=LV 27=LVT 1=LV 27=LVT 1=LV",
    "27=LVT 1=LV 27=LVT 1=LV 27=LVT 1=LV 27=LVT 1=LV 27=LVT 1=LV 27=LVT 1=LV 27=LVT 1=LV 27=LVT",
    "1=LV 27=LVT 1=LV 27=LVT 1=LV 27=LVT 1=LV 27=LVT 1=LV 27=LVT 1=LV 27=LVT 1=LV 27=LVT 1=LV",
    "27=LVT 1=LV 27=LVT 1=LV 27=LVT 1=LV 27=LVT 1=LV 27=LVT 1=LV 27=LVT 1=LV 27=LVT 1=LV 27=LVT",
    "1=LV 27=LVT 1=LV 27=LVT 1=LV 27=LVT 1=LV 27=LVT 1=LV 27=LVT 1=LV 27=LVT 1=LV 27=LVT 1=LV",
    "27=LVT 1=LV 27=LVT 1=LV 27=LVT 1=LV 27=LVT 1=LV 27=LVT 1=LV 27=LVT 1=LV 27=LVT 1=LV 27=LVT",
    "1=LV 27=LVT 1=LV 27=LVT 1=LV 27=LVT 1=LV 27=LVT 1=LV 27=LVT 1=LV 27=LVT 1=LV 27=LVT 1=LV",
    "27=LVT 1=LV 27=LVT 1=LV 27=LVT 1=LV 27=LVT 1=LV 27=LVT 1=LV 27=LVT 1=LV 27=LVT 1=LV 27=LVT",
    "1=LV 27=LVT 1=LV 27=LVT 1=LV 27=LVT 1=LV 27=LVT 1=LV 27=LVT 1=LV 27=LVT 1=LV 27=LVT 1=LV",
    "27=LVT 1=LV 27=LVT 1=LV 27=LVT 1=LV 27=LVT 1=LV 27=LVT 1=LV 27=LVT 1=LV 27=LVT 1=LV 27=LVT",
    "1=LV 27=LVT 1=LV 27=LVT 1=LV 27=LVT 1=LV 27=LVT 1=LV 27=LVT 1=LV 27=LVT 1=LV 27=LVT 1=LV",
    "27=LVT 1=LV 27=LVT 1=LV 27=LVT 1=LV 27=LVT 1=LV 27=LVT 1=LV 27=LVT 1=LV 27=LVT 1=LV 27=LVT",
    "1=LV 27=LVT 1=LV 27=LVT 1=LV 27=LVT 1=LV 27=LVT 1=LV 27=LVT 1=LV 27=LVT 1=LV 27=LVT 1=LV",
    "27=LVT 1=LV 27=LVT 1=LV 27=LVT 1=LV 27=LVT 1=LV 27=LVT 1=LV 27=LVT 1=LV 27=LVT 1=LV 27=LVT",
    "1=LV 27=LVT 1=LV 27=LVT 1=LV 27=LVT 1=LV 27=LVT 1=LV 27=LVT 1=LV 27=LVT 1=LV 27=LVT 1=LV",
    "27=LVT 1=LV 27=LVT 1=LV 27=LVT 1=LV 27=LVT 1=LV 27=LVT 1=LV 27=LVT 1=LV 27=LVT 1=LV 27=LVT",
    "1=LV 27=LVT 1=LV 27=LVT 1=LV 27=LVT 1=LV 27=LVT 1=LV 27=LVT 1=LV 27=LVT 1=LV 27=LVT 1=LV",
    "27=LVT 1=LV 27=LVT 1=LV 27=LVT 1=LV 27=LVT 1=LV 27=LVT 1=LV 27=LVT 1=LV 27=LVT 1=LV 27=LVT",
    "1=LV 27=LVT 1=LV 27=LVT 1=LV 27=LVT 1=LV 27=LVT 1=LV 27=LVT 1=LV 27=LVT 1=LV 27=LVT 1=LV",
    "27=LVT 1=LV 27=LVT 1=LV 27=LVT 1=LV 27=LVT 1=LV 27=LVT 1=LV 27=LVT 1=LV 27=LVT 1=LV 27=LVT",
    "1=LV 27=LVT 1=LV 27=LVT 1=LV 27=LVT 1=LV 27=LVT 1=LV 27=LVT 1=LV 27=LVT 1=LV 27=LVT 1=LV",
    "27=LVT 1=LV 27=LVT 1=LV 27=LVT 1=LV 27=LVT 1=LV 27=LVT 1=LV 27=LVT 1=LV 27=LVT 1=LV 27=LVT",
    "1=LV 27=LVT 1=LV 27=LVT 1=LV 27=LVT 1=LV 27=LVT 1=LV 27=LVT 1=LV 27=LVT 1=LV 27=LVT 1=LV",
    "27=LVT 1=LV 27=LVT 1=LV 27=LVT 1=LV 27=LVT 1=LV 27=LVT 1=LV 27=LVT 1=LV 27=LVT 1=LV 27=LVT",
    "1=LV 27=LVT 1=LV 27=LVT 1=LV 27=LVT 1=LV 27=LVT 1=LV 27=LVT 1=LV 27=LVT 1=LV 27=LVT 1=LV",
    "27=LVT 1=LV 27=LVT 1=LV 27=LVT 1=LV 27=LVT 1=LV 27=LVT 1=LV 27=LVT 1=LV 27=LVT 1=LV 27=LVT",
    "1=LV 27=LVT 1=LV 27=LVT 1=LV 27=LVT 1=LV 27=LVT 1=LV 27=LVT 1=LV 27=LVT 1=LV 27=LVT 1=LV",
    "27=LVT 1=LV 27=LVT 1=LV 27=LVT 1=LV 27=LVT 1=LV 27=LVT 1=LV 27=LVT 1=LV 27=LVT 1=LV 27=LVT",
    "1=LV 27=LVT 1=LV 27=LVT 1=LV 27=LVT 1=LV 27=LVT 1=LV 27=LVT 1=LV 27=LVT 1=LV 27=LVT 1=LV",
    "27=LVT 1=LV 27=LVT 1=LV 27=LVT 1=LV 27=LVT 1=LV 27=LVT 1=LV 27=LVT 1=LV 27=LVT 1=LV 27=LVT",
    "1=LV 27=LVT 1=LV 27=LVT 1=LV 27=LVT 1=LV 27=LVT 1=LV 27=LVT 1=LV 27=LVT 1=LV 27=LVT 1=LV",
    "27=LVT 1=LV 27=LVT 1=LV 27=LVT 1=LV 27=LVT 1=LV 27=LVT 1=LV 27=LVT 1=LV 27=LVT 1=LV 27=LVT",
    "1=LV 27=LVT 1=LV 27=LVT 1=LV 27=LVT 1=LV 27=LVT 1=LV 27=LVT 1=LV 27=LVT 1=LV 27=LVT 1=LV",
    "27=LVT 1=LV 27=LVT 1=LV 27=LVT 1=LV 27=LVT 1=LV 27=LVT 1=LV 27=LVT 1=LV 27=LVT 1=LV 27=LVT",
    "1=LV 27=LVT 1=LV 27=LVT 1=LV 27=LVT 1=LV 27=LVT 1=LV 27=LVT 1=LV 27=LVT 1=LV 27=LVT 1=LV",
    "27=LVT 1=LV 27=LVT 1=LV 27=LVT 1=LV 27=LVT 1=LV 27=LVT 1=LV 27=LVT 1=LV 27=LVT 1=LV 27=LVT",
    "1=LV 27=LVT 1=LV 27=LVT 1=LV 27=LVT 1=LV 27=LVT 1=LV 27=LVT 1=LV 27=LVT 1=LV 27=LVT 1=LV",
    "27=LVT 1=LV 27=LVT 1=LV 27=LVT 1=LV 27=LVT 1=LV 27=LVT 1=LV 27=LVT 1=LV 27=LVT 1=LV 27=LVT",
    "1=LV 27=LVT 1=LV 27=LVT 1=LV 27=LVT 1=LV 27=LVT 1=LV 27=LVT 1=LV 27=LVT 1=LV 27=LVT 1=LV",
    "27=LVT 1=LV 27=LVT 1=LV 27=LVT 1=LV 27=LVT 1=LV 27=LVT 1=LV 27=LVT 1=LV 27=LVT 1=LV 27=LVT",
    "1=LV 27=LVT 1=LV 27=LVT 1=LV 27=LVT 1=LV 27=LVT 1=LV 27=LVT 1=LV 27=LVT 1=LV 27=LVT 1=LV",
    "27=LVT 1=LV 27=LVT 1=LV 27=LVT 1=LV 27=LVT 1=LV 27=LVT 1=LV 27=LVT 1=LV 27=LVT 1=LV 27=LVT",
    "1=LV 27=LVT 1=LV 27=LVT 1=LV 27=LVT 1=LV 27=LVT 1=LV 27=LVT 1=LV 27=LVT 1=LV 27=LVT 1=LV",
    "27=LVT 1=LV 27=LVT 1=LV 27=LVT 1=LV 27=LVT 1=LV 27=LVT 1=LV 27=LVT 1=LV 27=LVT 1=LV 27=LVT",
    "1=LV 27=LVT 1=LV 27=LVT 1=LV 27=LVT 1=LV 27=LVT 1=LV 27=LVT 1=LV 27=LVT 1=LV 27=LVT 1=LV",
    "27=LVT 1=LV 27=LVT 1=LV 27=LVT 1=LV 27=LVT 1=LV 27=LVT 1=LV 27=LVT 1=LV 27=LVT 1=LV 27=LVT",
    "1=LV 27=LVT 1=LV 27=LVT 1=LV 27=LVT 1=LV 27=LVT 1=LV 27=LVT 1=LV 27=LVT 1=LV 27=LVT 1=LV",
    "27=LVT 1=LV 27=LVT 1=LV 27=LVT 1=LV 27=LVT 1=LV 27=LVT 1=LV 27=LVT 1=LV 27=LVT 1=LV 27=LVT",
    "1=LV 27=LVT 1=LV 27=LVT 1=LV 27=LVT 1=LV 27=LVT 1=LV 27=LVT 1=LV 27=LVT 1=LV 27=LVT 1=LV",
    "27=LVT 1=LV 27=LVT 1=LV 27=LVT 1=LV 27=LVT 1=LV 27=LVT 1=LV 27=LVT 1=LV 27=LVT 1=LV 27=LVT",
    "12=XX 23=V 4=XX 49=T 8994=XX 1=EX 737=XX 16=EX 16=XX 16=EX 207=XX 1=CN 158=XX 2=EX 80=XX",
    "12=CN 513=XX 1=EX 226=XX 1=EX 149=XX 5=EX 1670=XX 3=EX 1=XX 2=EX 5=XX 4=EX 40=XX 3=EX 4=XX",
    "1=EX 165=XX 2=EX 573=XX 4=EX 65=XX 5=EX 317=XX 2=EX 79=XX 4=EX 70=XX 11=EX 49=XX 4=EX",
    "122=XX 1=SM 1=EX 1=SM 53=XX 15=EX 41=XX 1=EX 2=XX 2=EX 10=XX 3=EX 1=SM 45=XX 3=SM 4=EX 2=SM",
    "2=EX 2=XX 1=PP 4=XX 1=EX 10=XX 1=PP 50=XX 3=EX 36=XX 5=EX 1=SM 8=EX 16=XX 2=SM 44=XX 1=EX",
    "12=XX 2=EX 1=SM 48=XX 3=SM 9=EX 2=SM 1=XX 2=PP 5=XX 4=EX 1=XX 1=SM 1=EX 92=XX 3=SM 3=EX",
    "2=SM 1=EX 1=SM 2=EX 6=XX 1=EX 2=XX 1=EX 157=XX 1=EX 3=SM 8=EX 21=XX 2=EX 2=SM 55=XX 2=EX",
    "1=XX 1=EX 1=SM 1=EX 4=SM 2=XX 2=SM 2=XX 3=SM 9=XX 1=EX 10=XX 2=SM 2=XX 7=EX 3=XX 5=EX 67=XX",
    "1=EX 2=SM 6=EX 1=XX 1=EX 2=XX 1=EX 1=XX 3=EX 1=SM 1=XX 2=SM 3=EX 1=XX 1=EX 14=XX 2=EX 82=XX",
    "3=SM 8=EX 2=SM 3=EX 1=SM 1=EX 23=XX 1=EX 81=XX 1=EX 2=SM 6=EX 1=SM 1=EX 2=SM 1=EX 1=SM 2=EX",
    "1=SM 2=EX 235=XX 1=EX 2=SM 4=EX 2=XX 4=SM 2=EX 1=SM 2=EX 27=XX 2=EX 82=XX 3=SM 8=EX 2=SM",
    "1=EX 1=SM 2=EX 106=XX 1=EX 1=SM 1=EX 2=SM 6=EX 1=SM 1=EX 101=XX 3=EX 2=XX 4=EX 1=SM 5=EX",
    "256=XX 3=SM 9=EX 1=SM 2=EX 245=XX 1=EX 5=SM 1=XX 2=SM 2=XX 2=EX 1=SM 1=EX 1=PP 1=SM 1=PP",
    "1=SM 1=EX 141=XX 3=SM 4=EX 2=XX 2=EX 4=SM 1=EX 3=XX 1=SM 28=XX 10=EX 40=XX 6=EX 1=SM 1=PP",
    "4=EX 8=XX 1=EX 9=XX 6=EX 2=SM 3=EX 40=XX 6=PP 13=EX 1=SM 2=EX 405=XX 1=SM 7=EX 1=XX 6=EX",
    "1=SM 1=EX 82=XX 22=EX 1=XX 1=SM 7=EX 1=SM 2=EX 1=SM 2=EX 122=XX 6=EX 3=XX 1=EX 1=XX 2=EX",
    "1=XX 7=EX 1=PP 1=EX 66=XX 5=SM 1=XX 2=EX 1=XX 2=SM 1=EX 1=SM 1=EX 347=XX 2=EX 2=SM 9=XX",
    "2=EX 1=PP 1=SM 48=XX 2=SM 5=EX 3=XX 2=SM 1=EX 1=SM 1=EX 23=XX 1=EX 5333=XX 16=CN 1=EX 6=XX",
    "15=EX 11464=XX 12=EX 3=SM 3=EX 2496=XX 5=EX 59=XX 7=EX 1048=XX 1=EX 1=XX 55=SM 7=XX 4=EX",
    "81=XX 1=EX 11=XX 2=SM 19627=XX 2=EX 1=XX 4=CN 4700=XX 46=EX 2=XX 23=EX 542=XX 1=EX 1=SM",
    "3=EX 3=XX 1=SM 5=EX 8=CN 8=EX 2=XX 7=EX 30=XX 4=EX 148=XX 3=EX 1979=XX 55=EX 4=XX 50=EX",
    "8=XX 1=EX 14=XX 1=EX 22=XX 5=EX 1=XX 15=EX 1360=XX 7=EX 1=XX 17=EX 2=XX 7=EX 1=XX 2=EX 1=XX",
    "5=EX 100=XX 1=EX 160=XX 7=EX 375=XX 1=EX 61=XX 4=EX 508=XX 4=EX 254=XX 2=EX 736=XX 7=EX",
    "109=XX 7=EX 2203=XX 26=RI 507=XX 5=EX 789504=XX 32=CN 96=EX 128=CN 240=EX 3600=CN 192512=XX"])

/-- The word break classes of all code points. -/
def wordBreakRuns : Runs := Runs.ofText
  (" ".intercalate [
    "10=XX 1=LF 2=NL 1=CR 18=XX 1=WSegSpace 1=XX 1=DQ 4=XX 1=SQ 4=XX 1=MN 1=XX 1=MB 1=XX 10=NU",
    "1=ML 1=MN 5=XX 26=LE 4=XX 1=EX 1=XX 26=LE 10=XX 1=NL 36=XX 1=LE 2=XX 1=FO 7=XX 1=LE 1=XX",
    "1=ML 2=XX 1=LE 5=XX 23=LE 1=XX 31=LE 1=XX 480=LE 6=XX 34=LE 112=Extend 5=LE 1=XX 2=LE 2=XX",
    "4=LE 1=MN 1=LE 6=XX 1=LE 1=ML 3=LE 1=XX 1=LE 1=XX 20=LE 1=XX 83=LE 1=XX 139=LE 1=XX",
    "7=Extend 166=LE 1=XX 38=LE 2=XX 4=LE 1=XX 1=LE 1=ML 41=LE 1=MN 1=LE 6=XX 45=Extend 1=XX",
    "1=Extend 1=XX 2=Extend 1=XX 2=Extend 1=XX 1=Extend 8=XX 27=HL 4=XX 4=HL 1=LE 1=ML 11=XX",
    "6=FO 6=XX 2=MN 2=XX 11=Extend 1=XX 1=FO 3=XX 43=LE 21=Extend 10=NU 1=XX 1=NU 1=MN 1=XX 2=LE",
    "1=Extend 99=LE 1=XX 1=LE 7=Extend 1=FO 1=XX 6=Extend 2=LE 2=Extend 1=XX 4=Extend 2=LE 10=NU",
    "3=LE 2=XX 1=LE 15=XX 1=FO 1=LE 1=Extend 30=LE 27=Extend 2=XX 89=LE 11=Extend 1=LE 14=XX",
    "10=NU 33=LE 9=Extend 2=LE 2=XX 1=MN 1=XX 1=LE 2=XX 1=Extend 2=XX 22=LE 4=Extend 1=LE",
    "9=Extend 1=LE 3=Extend 1=LE 5=Extend 18=XX 25=LE 3=Extend 4=XX 11=LE 5=XX 24=LE 1=XX 6=LE",
    "1=XX 2=FO 5=XX 9=Extend 42=LE 24=Extend 1=FO 33=Extend 54=LE 3=Extend 1=LE 18=Extend 1=LE",
    "7=Extend 10=LE 2=Extend 2=XX 10=NU 1=XX 16=LE 3=Extend 1=XX 8=LE 2=XX 2=LE 2=XX 22=LE 1=XX",
    "7=LE 1=XX 1=LE 3=XX 4=LE 2=XX 1=Extend 1=LE 7=Extend 2=XX 2=Extend 2=XX 3=Extend 1=LE 8=XX",
    "1=Extend 4=XX 2=LE 1=XX 3=LE 2=Extend 2=XX 10=NU 2=LE 10=XX 1=LE 1=XX 1=Extend 2=XX",
    "3=Extend 1=XX 6=LE 4=XX 2=LE 2=XX 22=LE 1=XX 7=LE 1=XX 2=LE 1=XX 2=LE 1=XX 2=LE 2=XX",
    "1=Extend 1=XX 5=Extend 4=XX 2=Extend 2=XX 3=Extend 3=XX 1=Extend 7=XX 4=LE 1=XX 1=LE 7=XX",
    "10=NU 2=Extend 3=LE 1=Extend 11=XX 3=Extend 1=XX 9=LE 1=XX 3=LE 1=XX 22=LE 1=XX 7=LE 1=XX",
    "2=LE 1=XX 5=LE 2=XX 1=Extend 1=LE 8=Extend 1=XX 3=Extend 1=XX 3=Extend 2=XX 1=LE 15=XX 2=LE",
    "2=Extend 2=XX 10=NU 9=XX 1=LE 6=Extend 1=XX 3=Extend 1=XX 8=LE 2=XX 2=LE 2=XX 22=LE 1=XX",
    "7=LE 1=XX 2=LE 1=XX 5=LE 2=XX 1=Extend 1=LE 7=Extend 2=XX 2=Extend 2=XX 3=Extend 7=XX",
    "3=Extend 4=XX 2=LE 1=XX 3=LE 2=Extend 2=XX 10=NU 1=XX 1=LE 16=XX 1=Extend 1=LE 1=XX 6=LE",
    "3=XX 3=LE 1=XX 4=LE 3=XX 2=LE 1=XX 1=LE 1=XX 2=LE 3=XX 2=LE 3=XX 3=LE 3=XX 12=LE 4=XX",
    "5=Extend 3=XX 3=Extend 1=XX 4=Extend 2=XX 1=LE 6=XX 1=Extend 14=XX 10=NU 16=XX 5=Extend",
    "8=LE 1=XX 3=LE 1=XX 23=LE 1=XX 16=LE 2=XX 1=Extend 1=LE 7=Extend 1=XX 3=Extend 1=XX",
    "4=Extend 7=XX 2=Extend 1=XX 3=LE 2=XX 1=LE 2=XX 2=LE 2=Extend 2=XX 10=NU 16=XX 1=LE",
    "3=Extend 1=XX 8=LE 1=XX 3=LE 1=XX 23=LE 1=XX 10=LE 1=XX 5=LE 2=XX 1=Extend 1=LE 7=Extend",
    "1=XX 3=Extend 1=XX 4=Extend 7=XX 2=Extend 6=XX 2=LE 1=XX 2=LE 2=Extend 2=XX 10=NU 1=XX 2=LE",
    "1=Extend 12=XX 4=Extend 9=LE 1=XX 3=LE 1=XX 41=LE 2=Extend 1=LE 7=Extend 1=XX 3=Extend 1=XX",
    "4=Extend 1=LE 5=XX 3=LE 1=Extend 7=XX 3=LE 2=Extend 2=XX 10=NU 10=XX 6=LE 1=XX 3=Extend",
    "1=XX 18=LE 3=XX 24=LE 1=XX 9=LE 1=XX 1=LE 2=XX 7=LE 3=XX 1=Extend 4=XX 6=Extend 1=XX",
    "1=Extend 1=XX 8=Extend 6=XX 10=NU 2=XX 2=Extend 61=XX 1=Extend 2=XX 7=Extend 12=XX 8=Extend",
    "1=XX 10=NU 87=XX 1=Extend 2=XX 9=Extend 11=XX 7=Extend 1=XX 10=NU 38=XX 1=LE 23=XX 2=Extend",
    "6=XX 10=NU 11=XX 1=Extend 1=XX 1=Extend 1=XX 1=Extend 4=XX 2=Extend 8=LE 1=XX 36=LE 4=XX",
    "20=Extend 1=XX 2=Extend 5=LE 11=Extend 1=XX 36=Extend 9=XX 1=Extend 100=XX 20=Extend 1=XX",
    "10=NU 12=XX 4=Extend 4=XX 3=Extend 1=XX 3=Extend 2=XX 7=Extend 3=XX 4=Extend 13=XX",
    "12=Extend 1=XX 1=Extend 10=NU 4=Extend 2=XX 38=LE 1=XX 1=LE 5=XX 1=LE 2=XX 43=LE 1=XX",
    "333=LE 1=XX 4=LE 2=XX 7=LE 1=XX 1=LE 1=XX 4=LE 2=XX 41=LE 1=XX 4=LE 2=XX 33=LE 1=XX 4=LE",
    "2=XX 7=LE 1=XX 1=LE 1=XX 4=LE 2=XX 15=LE 1=XX 57=LE 1=XX 4=LE 2=XX 67=LE 2=XX 3=Extend",
    "32=XX 16=LE 16=XX 86=LE 2=XX 6=LE 3=XX 620=LE 2=XX 17=LE 1=WSegSpace 26=LE 5=XX 75=LE 3=XX",
    "11=LE 7=XX 18=LE 4=Extend 9=XX 19=LE 3=Extend 11=XX 18=LE 2=Extend 12=XX 13=LE 1=XX 3=LE",
    "1=XX 2=Extend 64=XX 32=Extend 9=XX 1=Extend 2=XX 10=NU 33=XX 3=Extend 1=FO 1=Extend 10=NU",
    "6=XX 89=LE 7=XX 5=LE 2=Extend 34=LE 1=Extend 1=LE 5=XX 70=LE 10=XX 31=LE 1=XX 12=Extend",
    "4=XX 12=Extend 10=XX 10=NU 128=XX 10=NU 38=XX 23=LE 5=Extend 57=XX 10=Extend 1=XX 29=Extend",
    "2=XX 1=Extend 10=NU 6=XX 10=NU 22=XX 31=Extend 49=XX 5=Extend 47=LE 17=Extend 8=LE 3=XX",
    "10=NU 17=XX 9=Extend 12=XX 3=Extend 30=LE 13=Extend 2=LE 10=NU 44=LE 14=Extend 12=XX 36=LE",
    "20=Extend 8=XX 10=NU 3=XX 3=LE 10=NU 36=LE 2=XX 11=LE 5=XX 43=LE 2=XX 3=LE 16=XX 3=Extend",
    "1=XX 21=Extend 4=LE 1=Extend 6=LE 1=Extend 2=LE 3=Extend 1=LE 5=XX 192=LE 64=Extend 278=LE",
    "2=XX 6=LE 2=XX 38=LE 2=XX 6=LE 2=XX 8=LE 1=XX 1=LE 1=XX 1=LE 1=XX 1=LE 1=XX 31=LE 2=XX",
    "53=LE 1=XX 7=LE 1=XX 1=LE 3=XX 3=LE 1=XX 7=LE 3=XX 4=LE 2=XX 6=LE 4=XX 13=LE 5=XX 3=LE 1=XX",
    "7=LE 3=XX 7=WSegSpace 1=XX 3=WSegSpace 1=XX 1=Extend 1=ZWJ 2=FO 8=XX 2=MB 10=XX 1=MB 2=XX",
    "1=ML 2=NL 5=FO 1=EX 15=XX 2=EX 3=XX 1=MN 15=XX 1=EX 10=XX 1=WSegSpace 5=FO 1=XX 10=FO 1=XX",
    "1=LE 13=XX 1=LE 16=XX 13=LE 51=XX 33=Extend 17=XX 1=LE 4=XX 1=LE 2=XX 10=LE 1=XX 1=LE 3=XX",
    "5=LE 6=XX 1=LE 1=XX 1=LE 1=XX 1=LE 1=XX 4=LE 1=XX 11=LE 2=XX 4=LE 5=XX 5=LE 4=XX 1=LE 17=XX",
    "41=LE 813=XX 52=LE 1814=XX 229=LE 6=XX 4=LE 3=Extend 2=LE 12=XX 38=LE 1=XX 1=LE 5=XX 1=LE",
    "2=XX 56=LE 7=XX 1=LE 15=XX 1=Extend 23=LE 9=XX 7=LE 1=XX 7=LE 1=XX 7=LE 1=XX 7=LE 1=XX 7=LE",
    "1=XX 7=LE 1=XX 7=LE 1=XX 7=LE 1=XX 32=Extend 47=XX 1=LE 464=XX 1=WSegSpace 4=XX 1=LE 36=XX",
    "6=Extend 1=XX 5=KA 5=XX 2=LE 92=XX 2=Extend 2=KA 3=XX 91=KA 1=XX 4=KA 5=XX 43=LE 1=XX 94=LE",
    "17=XX 32=LE 48=XX 16=KA 208=XX 47=KA 1=XX 88=KA 27816=XX 1165=LE 67=XX 46=LE 2=XX 269=LE",
    "3=XX 16=LE 10=NU 2=LE 20=XX 47=LE 4=Extend 1=XX 10=Extend 1=XX 31=LE 2=Extend 80=LE",
    "2=Extend 22=XX 198=LE 2=XX 2=LE 1=XX 1=LE 1=XX 8=LE 21=XX 16=LE 1=Extend 3=LE 1=Extend 4=LE",
    "1=Extend 23=LE 5=Extend 4=XX 1=Extend 19=XX 52=LE 12=XX 2=Extend 50=LE 18=Extend 10=XX",
    "10=NU 6=XX 18=Extend 6=LE 3=XX 1=LE 1=XX 2=LE 1=Extend 10=NU 28=LE 8=Extend 2=XX 23=LE",
    "13=Extend 12=XX 29=LE 3=XX 4=Extend 47=LE 14=Extend 14=XX 1=LE 10=NU 11=XX 1=Extend 10=XX",
    "10=NU 6=XX 41=LE 14=Extend 9=XX 3=LE 1=Extend 8=LE 2=Extend 2=XX 10=NU 33=XX 3=Extend 50=XX",
    "1=Extend 1=XX 3=Extend 2=XX 2=Extend 5=XX 2=Extend 1=XX 1=Extend 30=XX 11=LE 5=Extend 2=XX",
    "3=LE 2=Extend 10=XX 6=LE 2=XX 6=LE 2=XX 6=LE 9=XX 7=LE 1=XX 7=LE 1=XX 58=LE 6=XX 115=LE",
    "8=Extend 1=XX 2=Extend 2=XX 10=NU 6=XX 11172=LE 12=XX 23=LE 4=XX 49=LE 8964=XX 7=LE 12=XX",
    "5=LE 5=XX 1=HL 1=Extend 10=HL 1=XX 13=HL 1=XX 5=HL 1=XX 1=HL 1=XX 2=HL 1=XX 2=HL 1=XX 10=HL",
    "98=LE 33=XX 363=LE 18=XX 64=LE 2=XX 54=LE 40=XX 12=LE 4=XX 16=Extend 1=MN 2=XX 1=ML 1=MN",
    "11=XX 16=Extend 3=XX 2=EX 24=XX 3=EX 1=MN 1=XX 1=MB 1=XX 1=MN 1=ML 26=XX 5=LE 1=XX 135=LE",
    "2=XX 1=FO 7=XX 1=MB 4=XX 1=MN 1=XX 1=MB 1=XX 10=NU 1=ML 1=MN 5=XX 26=LE 4=XX 1=EX 1=XX",
    "26=LE 11=XX 56=KA 2=Extend 31=LE 3=XX 6=LE 2=XX 6=LE 2=XX 6=LE 2=XX 3=LE 28=XX 3=FO 4=XX",
    "12=LE 1=XX 26=LE 1=XX 19=LE 1=XX 2=LE 1=XX 15=LE 2=XX 14=LE 34=XX 123=LE 69=XX 53=LE 136=XX",
    "1=Extend 130=XX 29=LE 3=XX 49=LE 15=XX 1=Extend 31=XX 32=LE 13=XX 30=LE 5=XX 38=LE 5=Extend",
    "5=XX 30=LE 2=XX 36=LE 4=XX 8=LE 1=XX 5=LE 42=XX 158=LE 2=XX 10=NU 6=XX 36=LE 4=XX 36=LE",
    "4=XX 40=LE 8=XX 52=LE 12=XX 11=LE 1=XX 15=LE 1=XX 7=LE 1=XX 2=LE 1=XX 11=LE 1=XX 15=LE 1=XX",
    "7=LE 1=XX 2=LE 3=XX 52=LE 12=XX 311=LE 9=XX 22=LE 10=XX 8=LE 24=XX 6=LE 1=XX 42=LE 1=XX",
    "9=LE 69=XX 6=LE 2=XX 1=LE 1=XX 44=LE 1=XX 2=LE 3=XX 1=LE 2=XX 23=LE 10=XX 23=LE 9=XX 31=LE",
    "65=XX 19=LE 1=XX 2=LE 10=XX 22=LE 10=XX 26=LE 70=XX 56=LE 6=XX 2=LE 64=XX 1=LE 3=Extend",
    "1=XX 2=Extend 5=XX 4=Extend 4=LE 1=XX 3=LE 1=XX 29=LE 2=XX 3=Extend 4=XX 1=Extend 32=XX",
    "29=LE 3=XX 29=LE 35=XX 8=LE 1=XX 28=LE 2=Extend 25=XX 54=LE 10=XX 22=LE 10=XX 19=LE 13=XX",
    "18=LE 110=XX 73=LE 55=XX 51=LE 13=XX 51=LE 13=XX 36=LE 4=Extend 8=XX 10=NU 6=XX 10=NU 28=LE",
    "3=XX 5=Extend 1=XX 23=LE 250=XX 42=LE 1=XX 2=Extend 3=XX 2=LE 16=XX 3=LE 55=XX 4=Extend",
    "29=LE 10=XX 1=LE 8=XX 22=LE 11=Extend 31=XX 18=LE 4=Extend 42=XX 21=LE 27=XX 23=LE 9=XX",
    "3=Extend 53=LE 15=Extend 31=XX 10=NU 1=Extend 2=LE 2=Extend 1=LE 9=XX 4=Extend 45=LE",
    "11=Extend 2=XX 1=FO 4=XX 1=Extend 10=XX 1=FO 2=XX 25=LE 7=XX 10=NU 6=XX 3=Extend 36=LE",
    "14=Extend 1=XX 10=NU 4=XX 1=LE 2=Extend 1=LE 8=XX 35=LE 1=Extend 2=XX 1=LE 9=XX 3=Extend",
    "48=LE 14=Extend 4=LE 4=XX 4=Extend 1=XX 2=Extend 10=NU 1=LE 1=XX 1=LE 35=XX 18=LE 1=XX",
    "25=LE 12=Extend 6=XX 1=Extend 2=LE 1=Extend 62=XX 7=LE 1=XX 1=LE 1=XX 4=LE 1=XX 15=LE 1=XX",
    "10=LE 7=XX 47=LE 12=Extend 5=XX 10=NU 6=XX 4=Extend 1=XX 8=LE 2=XX 2=LE 2=XX 22=LE 1=XX",
    "7=LE 1=XX 2=LE 1=XX 5=LE 1=XX 2=Extend 1=LE 7=Extend 2=XX 2=Extend 2=XX 3=Extend 2=XX 1=LE",
    "6=XX 1=Extend 5=XX 5=LE 2=Extend 2=XX 7=Extend 3=XX 5=Extend 11=XX 10=LE 1=XX 1=LE 2=XX",
    "1=LE 1=XX 38=LE 1=XX 1=LE 9=Extend 1=XX 1=Extend 2=XX 1=Extend 1=XX 4=Extend 1=XX 5=Extend",
    "1=LE 1=Extend 1=LE 13=XX 2=Extend 29=XX 53=LE 18=Extend 4=LE 5=XX 10=NU 4=XX 1=Extend 3=LE",
    "30=XX 48=LE 20=Extend 2=LE 1=XX 1=LE 8=XX 10=NU 166=XX 47=LE 7=Extend 2=XX 9=Extend 23=XX",
    "4=LE 2=Extend 34=XX 48=LE 17=Extend 3=XX 1=LE 11=XX 10=NU 38=XX 43=LE 13=Extend 1=LE 7=XX",
    "10=NU 6=XX 20=NU 57=XX 15=Extend 4=XX 10=NU 198=XX 44=LE 15=Extend 101=XX 64=LE 10=NU 21=XX",
    "8=LE 2=XX 1=LE 2=XX 8=LE 1=XX 2=LE 1=XX 24=LE 6=Extend 1=XX 2=Extend 2=XX 4=Extend 1=LE",
    "1=Extend 1=LE 2=Extend 12=XX 10=NU 70=XX 8=LE 2=XX 39=LE 7=Extend 2=XX 7=Extend 1=LE 1=XX",
    "1=LE 1=Extend 27=XX 1=LE 10=Extend 40=LE 7=Extend 1=LE 4=Extend 8=XX 1=Extend 8=XX 1=LE",
    "11=Extend 46=LE 16=Extend 3=XX 1=LE 18=XX 73=LE 199=XX 33=LE 15=XX 10=NU 6=XX 9=LE 1=XX",
    "37=LE 8=Extend 1=XX 8=Extend 1=LE 15=XX 10=NU 24=XX 30=LE 2=XX 22=Extend 1=XX 14=Extend",
    "73=XX 7=LE 1=XX 2=LE 1=XX 38=LE 6=Extend 3=XX 1=Extend 1=XX 2=Extend 1=XX 7=Extend 1=LE",
    "1=Extend 8=XX 10=NU 6=XX 6=LE 1=XX 2=LE 1=XX 32=LE 5=Extend 1=XX 2=Extend 1=XX 5=Extend",
    "1=LE 7=XX 10=NU 310=XX 19=LE 4=Extend 9=XX 2=Extend 1=LE 1=Extend 13=LE 1=XX 34=LE 7=Extend",
    "3=XX 5=Extend 13=XX 10=NU 1=Extend 85=XX 1=LE 79=XX 922=LE 102=XX 111=LE 17=XX 196=LE",
    "2636=XX 97=LE 15=XX 1072=LE 16=FO 1=Extend 6=LE 15=Extend 10=XX 3995=LE 5=XX 583=LE 6841=XX",
    "30=LE 18=Extend 10=NU 1734=XX 569=LE 7=XX 31=LE 1=XX 10=NU 6=XX 79=LE 1=XX 10=NU 6=XX 30=LE",
    "2=XX 5=Extend 11=XX 48=LE 7=Extend 9=XX 4=LE 12=XX 10=NU 9=XX 21=LE 5=XX 19=LE 432=XX 45=LE",
    "3=XX 10=NU 198=XX 64=LE 128=XX 75=LE 4=XX 1=Extend 1=LE 55=Extend 7=XX 4=Extend 13=LE 64=XX",
    "2=LE 1=XX 1=LE 1=Extend 11=XX 2=Extend 16382=XX 4=KA 1=XX 7=KA 1=XX 2=KA 1=XX 1=KA 287=XX",
    "3=KA 50=XX 1=KA 14=XX 4=KA 2712=XX 107=LE 5=XX 13=LE 3=XX 9=LE 7=XX 10=LE 3=XX 2=Extend",
    "1=XX 4=FO 4172=XX 10=NU 518=XX 46=Extend 2=XX 23=Extend 542=XX 5=Extend 3=XX 6=Extend 8=FO",
    "8=Extend 2=XX 7=Extend 30=XX 4=Extend 148=XX 3=Extend 443=XX 85=LE 1=XX 71=LE 1=XX 2=LE",
    "2=XX 1=LE 2=XX 2=LE 2=XX 4=LE 1=XX 12=LE 1=XX 1=LE 1=XX 7=LE 1=XX 65=LE 1=XX 4=LE 2=XX 8=LE",
    "1=XX 7=LE 1=XX 28=LE 1=XX 4=LE 1=XX 5=LE 1=XX 1=LE 3=XX 7=LE 1=XX 340=LE 2=XX 25=LE 1=XX",
    "25=LE 1=XX 31=LE 1=XX 25=LE 1=XX 31=LE 1=XX 25=LE 1=XX 31=LE 1=XX 25=LE 1=XX 31=LE 1=XX",
    "25=LE 1=XX 8=LE 2=XX 50=NU 512=XX 55=Extend 4=XX 50=Extend 8=XX 1=Extend 14=XX 1=Extend",
    "22=XX 5=Extend 1=XX 15=Extend 1104=XX 31=LE 6=XX 6=LE 213=XX 7=Extend 1=XX 17=Extend 2=XX",
    "7=Extend 1=XX 2=Extend 1=XX 5=Extend 5=XX 62=LE 33=XX 1=Extend 112=XX 45=LE 3=XX 7=Extend",
    "7=LE 2=XX 10=NU 4=XX 1=LE 321=XX 30=LE 1=Extend 17=XX 44=LE 4=Extend 10=NU 470=XX 28=LE",
    "4=Extend 10=NU 214=XX 30=LE 2=Extend 1=LE 10=NU 485=XX 7=LE 1=XX 4=LE 1=XX 2=LE 1=XX 15=LE",
    "1=XX 197=LE 11=XX 7=Extend 41=XX 68=LE 7=Extend 1=LE 4=XX 10=NU 1190=XX 4=LE 1=XX 27=LE",
    "1=XX 2=LE 1=XX 1=LE 2=XX 1=LE 1=XX 10=LE 1=XX 4=LE 1=XX 1=LE 1=XX 1=LE 6=XX 1=LE 4=XX 1=LE",
    "1=XX 1=LE 1=XX 1=LE 1=XX 3=LE 1=XX 2=LE 1=XX 1=LE 2=XX 1=LE 1=XX 1=LE 1=XX 1=LE 1=XX 1=LE",
    "1=XX 1=LE 1=XX 2=LE 1=XX 1=LE 2=XX 4=LE 1=XX 7=LE 1=XX 4=LE 1=XX 4=LE 1=XX 1=LE 1=XX 10=LE",
    "1=XX 17=LE 5=XX 3=LE 1=XX 5=LE 1=XX 17=LE 628=XX 26=LE 6=XX 26=LE 6=XX 26=LE 92=XX 26=RI",
    "507=XX 5=Extend 2032=XX 10=NU 787463=XX 1=FO 30=XX 96=Extend 128=XX 240=Extend 196112=XX"])

/-- The sentence break classes of all code points. -/
def sentenceBreakRuns : Runs := Runs.ofText
  (" ".intercalate [
    "9=XX 1=SP 1=LF 2=SP 1=CR 18=XX 1=SP 1=ST 1=CL 4=XX 3=CL 2=XX 2=SC 1=AT 1=XX 10=NU 1=SC 4=XX",
    "1=ST 1=XX 26=UP 1=CL 1=XX 1=CL 3=XX 26=LO 1=CL 1=XX 1=CL 7=XX 1=SE 26=XX 1=SP 9=XX 1=LO",
    "1=CL 1=XX 1=FO 7=XX 1=LO 4=XX 1=LO 1=CL 4=XX 23=UP 1=XX 7=UP 24=LO 1=XX 8=LO 1=UP 1=LO 1=UP",
    "1=LO 1=UP 1=LO 1=UP 1=LO 1=UP 1=LO 1=UP 1=LO 1=UP 1=LO 1=UP 1=LO 1=UP 1=LO 1=UP 1=LO 1=UP",
    "1=LO 1=UP 1=LO 1=UP 1=LO 1=UP 1=LO 1=UP 1=LO 1=UP 1=LO 1=UP 1=LO 1=UP 1=LO 1=UP 1=LO 1=UP",
    "1=LO 1=UP 1=LO 1=UP 1=LO 1=UP 1=LO 1=UP 1=LO 1=UP 1=LO 1=UP 1=LO 1=UP 1=LO 1=UP 2=LO 1=UP",
    "1=LO 1=UP 1=LO 1=UP 1=LO 1=UP 1=LO 1=UP 1=LO 1=UP 1=LO 1=UP 1=LO 1=UP 2=LO 1=UP 1=LO 1=UP",
    "1=LO 1=UP 1=LO 1=UP 1=LO 1=UP 1=LO 1=UP 1=LO 1=UP 1=LO 1=UP 1=LO 1=UP 1=LO 1=UP 1=LO 1=UP",
    "1=LO 1=UP 1=LO 1=UP 1=LO 1=UP 1=LO 1=UP 1=LO 1=UP 1=LO 1=UP 1=LO 1=UP 1=LO 1=UP 1=LO 1=UP",
    "1=LO 1=UP 1=LO 1=UP 1=LO 1=UP 1=LO 2=UP 1=LO 1=UP 1=LO 1=UP 3=LO 2=UP 1=LO 1=UP 1=LO 2=UP",
    "1=LO 3=UP 2=LO 4=UP 1=LO 2=UP 1=LO 3=UP 3=LO 2=UP 1=LO 2=UP 1=LO 1=UP 1=LO 1=UP 1=LO 2=UP",
    "1=LO 1=UP 2=LO 1=UP 1=LO 2=UP 1=LO 3=UP 1=LO 1=UP 1=LO 2=UP 2=LO 1=LE 1=UP 3=LO 4=LE 2=UP",
    "1=LO 2=UP 1=LO 2=UP 1=LO 1=UP 1=LO 1=UP 1=LO 1=UP 1=LO 1=UP 1=LO 1=UP 1=LO 1=UP 1=LO 1=UP",
    "1=LO 1=UP 2=LO 1=UP 1=LO 1=UP 1=LO 1=UP 1=LO 1=UP 1=LO 1=UP 1=LO 1=UP 1=LO 1=UP 1=LO 1=UP",
    "1=LO 1=UP 2=LO 2=UP 1=LO 1=UP 1=LO 3=UP 1=LO 1=UP 1=LO 1=UP 1=LO 1=UP 1=LO 1=UP 1=LO 1=UP",
    "1=LO 1=UP 1=LO 1=UP 1=LO 1=UP 1=LO 1=UP 1=LO 1=UP 1=LO 1=UP 1=LO 1=UP 1=LO 1=UP 1=LO 1=UP",
    "1=LO 1=UP 1=LO 1=UP 1=LO 1=UP 1=LO 1=UP 1=LO 1=UP 1=LO 1=UP 1=LO 1=UP 1=LO 1=UP 1=LO 1=UP",
    "1=LO 1=UP 1=LO 1=UP 1=LO 1=UP 1=LO 1=UP 1=LO 1=UP 1=LO 1=UP 7=LO 2=UP 1=LO 2=UP 2=LO 1=UP",
    "1=LO 4=UP 1=LO 1=UP 1=LO 1=UP 1=LO 1=UP 1=LO 1=UP 69=LO 1=LE 36=LO 7=LE 2=LO 4=XX 12=LE",
    "14=XX 5=LO 7=XX 1=LE 1=XX 1=LE 17=XX 112=EX 1=UP 1=LO 1=UP 1=LO 1=LE 1=XX 1=UP 1=LO 2=XX",
    "4=LO 1=XX 1=UP 6=XX 1=UP 1=XX 3=UP 1=XX 1=UP 1=XX 2=UP 1=LO 17=UP 1=XX 9=UP 35=LO 1=UP 2=LO",
    "3=UP 3=LO 1=UP 1=LO 1=UP 1=LO 1=UP 1=LO 1=UP 1=LO 1=UP 1=LO 1=UP 1=LO 1=UP 1=LO 1=UP 1=LO",
    "1=UP 1=LO 1=UP 1=LO 1=UP 1=LO 1=UP 5=LO 1=UP 1=LO 1=XX 1=UP 1=LO 2=UP 2=LO 51=UP 48=LO 1=UP",
    "1=LO 1=UP 1=LO 1=UP 1=LO 1=UP 1=LO 1=UP 1=LO 1=UP 1=LO 1=UP 1=LO 1=UP 1=LO 1=UP 1=LO 1=UP",
    "1=LO 1=UP 1=LO 1=UP 1=LO 1=UP 1=LO 1=UP 1=LO 1=UP 1=LO 1=UP 1=LO 1=UP 1=LO 1=XX 7=EX 1=UP",
    "1=LO 1=UP 1=LO 1=UP 1=LO 1=UP 1=LO 1=UP 1=LO 1=UP 1=LO 1=UP 1=LO 1=UP 1=LO 1=UP 1=LO 1=UP",
    "1=LO 1=UP 1=LO 1=UP 1=LO 1=UP 1=LO 1=UP 1=LO 1=UP 1=LO 1=UP 1=LO 1=UP 1=LO 1=UP 1=LO 1=UP",
    "1=LO 1=UP 1=LO 1=UP 1=LO 1=UP 1=LO 1=UP 1=LO 1=UP 1=LO 1=UP 1=LO 1=UP 1=LO 1=UP 1=LO 2=UP",
    "1=LO 1=UP 1=LO 1=UP 1=LO 1=UP 1=LO 1=UP 1=LO 1=UP 1=LO 1=UP 2=LO 1=UP 1=LO 1=UP 1=LO 1=UP",
    "1=LO 1=UP 1=LO 1=UP 1=LO 1=UP 1=LO 1=UP 1=LO 1=UP 1=LO 1=UP 1=LO 1=UP 1=LO 1=UP 1=LO 1=UP",
    "1=LO 1=UP 1=LO 1=UP 1=LO 1=UP 1=LO 1=UP 1=LO 1=UP 1=LO 1=UP 1=LO 1=UP 1=LO 1=UP 1=LO 1=UP",
    "1=LO 1=UP 1=LO 1=UP 1=LO 1=UP 1=LO 1=UP 1=LO 1=UP 1=LO 1=UP 1=LO 1=UP 1=LO 1=UP 1=LO 1=UP",
    "1=LO 1=UP 1=LO 1=UP 1=LO 1=UP 1=LO 1=UP 1=LO 1=UP 1=LO 1=UP 1=LO 1=UP 1=LO 1=UP 1=LO 1=UP",
    "1=LO 1=UP 1=LO 1=UP 1=LO 1=UP 1=LO 1=UP 1=LO 1=UP 1=LO 1=UP 1=LO 1=UP 1=LO 1=UP 1=LO 1=UP",
    "1=LO 1=XX 38=UP 2=XX 1=LE 3=XX 1=SC 2=XX 41=LO 1=ST 7=XX 45=EX 1=XX 1=EX 1=XX 2=EX 1=XX",
    "2=EX 1=XX 1=EX 8=XX 27=LE 4=XX 5=LE 12=XX 6=FO 6=XX 2=SC 2=XX 11=EX 1=XX 1=FO 3=ST 43=LE",
    "21=EX 10=NU 1=XX 2=NU 1=XX 2=LE 1=EX 99=LE 1=ST 1=LE 7=EX 1=FO 1=XX 6=EX 2=LE 2=EX 1=XX",
    "4=EX 2=LE 10=NU 3=LE 2=XX 1=LE 3=ST 12=XX 1=FO 1=LE 1=EX 30=LE 27=EX 2=XX 89=LE 11=EX 1=LE",
    "14=XX 10=NU 33=LE 9=EX 2=LE 2=XX 1=SC 1=ST 1=LE 2=XX 1=EX 2=XX 22=LE 4=EX 1=LE 9=EX 1=LE",
    "3=EX 1=LE 5=EX 9=XX 1=ST 1=XX 1=ST 3=XX 2=ST 1=XX 25=LE 3=EX 4=XX 11=LE 5=XX 24=LE 1=XX",
    "6=LE 1=XX 2=FO 5=XX 9=EX 42=LE 24=EX 1=FO 33=EX 54=LE 3=EX 1=LE 18=EX 1=LE 7=EX 10=LE 2=EX",
    "2=ST 10=NU 1=XX 16=LE 3=EX 1=XX 8=LE 2=XX 2=LE 2=XX 22=LE 1=XX 7=LE 1=XX 1=LE 3=XX 4=LE",
    "2=XX 1=EX 1=LE 7=EX 2=XX 2=EX 2=XX 3=EX 1=LE 8=XX 1=EX 4=XX 2=LE 1=XX 3=LE 2=EX 2=XX 10=NU",
    "2=LE 10=XX 1=LE 1=XX 1=EX 2=XX 3=EX 1=XX 6=LE 4=XX 2=LE 2=XX 22=LE 1=XX 7=LE 1=XX 2=LE 1=XX",
    "2=LE 1=XX 2=LE 2=XX 1=EX 1=XX 5=EX 4=XX 2=EX 2=XX 3=EX 3=XX 1=EX 7=XX 4=LE 1=XX 1=LE 7=XX",
    "10=NU 2=EX 3=LE 1=EX 11=XX 3=EX 1=XX 9=LE 1=XX 3=LE 1=XX 22=LE 1=XX 7=LE 1=XX 2=LE 1=XX",
    "5=LE 2=XX 1=EX 1=LE 8=EX 1=XX 3=EX 1=XX 3=EX 2=XX 1=LE 15=XX 2=LE 2=EX 2=XX 10=NU 9=XX 1=LE",
    "6=EX 1=XX 3=EX 1=XX 8=LE 2=XX 2=LE 2=XX 22=LE 1=XX 7=LE 1=XX 2=LE 1=XX 5=LE 2=XX 1=EX 1=LE",
    "7=EX 2=XX 2=EX 2=XX 3=EX 7=XX 3=EX 4=XX 2=LE 1=XX 3=LE 2=EX 2=XX 10=NU 1=XX 1=LE 16=XX 1=EX",
    "1=LE 1=XX 6=LE 3=XX 3=LE 1=XX 4=LE 3=XX 2=LE 1=XX 1=LE 1=XX 2=LE 3=XX 2=LE 3=XX 3=LE 3=XX",
    "12=LE 4=XX 5=EX 3=XX 3=EX 1=XX 4=EX 2=XX 1=LE 6=XX 1=EX 14=XX 10=NU 16=XX 5=EX 8=LE 1=XX",
    "3=LE 1=XX 23=LE 1=XX 16=LE 2=XX 1=EX 1=LE 7=EX 1=XX 3=EX 1=XX 4=EX 7=XX 2=EX 1=XX 3=LE 2=XX",
    "1=LE 2=XX 2=LE 2=EX 2=XX 10=NU 16=XX 1=LE 3=EX 1=XX 8=LE 1=XX 3=LE 1=XX 23=LE 1=XX 10=LE",
    "1=XX 5=LE 2=XX 1=EX 1=LE 7=EX 1=XX 3=EX 1=XX 4=EX 7=XX 2=EX 6=XX 2=LE 1=XX 2=LE 2=EX 2=XX",
    "10=NU 1=XX 2=LE 1=EX 12=XX 4=EX 9=LE 1=XX 3=LE 1=XX 41=LE 2=EX 1=LE 7=EX 1=XX 3=EX 1=XX",
    "4=EX 1=LE 5=XX 3=LE 1=EX 7=XX 3=LE 2=EX 2=XX 10=NU 10=XX 6=LE 1=XX 3=EX 1=XX 18=LE 3=XX",
    "24=LE 1=XX 9=LE 1=XX 1=LE 2=XX 7=LE 3=XX 1=EX 4=XX 6=EX 1=XX 1=EX 1=XX 8=EX 6=XX 10=NU 2=XX",
    "2=EX 13=XX 48=LE 1=EX 2=LE 7=EX 5=XX 7=LE 8=EX 1=XX 10=NU 39=XX 2=LE 1=XX 1=LE 1=XX 5=LE",
    "1=XX 24=LE 1=XX 1=LE 1=XX 10=LE 1=EX 2=LE 9=EX 1=LE 2=XX 5=LE 1=XX 1=LE 1=XX 7=EX 1=XX",
    "10=NU 2=XX 4=LE 32=XX 1=LE 23=XX 2=EX 6=XX 10=NU 11=XX 1=EX 1=XX 1=EX 1=XX 1=EX 4=CL 2=EX",
    "8=LE 1=XX 36=LE 4=XX 20=EX 1=XX 2=EX 5=LE 11=EX 1=XX 36=EX 9=XX 1=EX 57=XX 43=LE 20=EX 1=LE",
    "10=NU 2=ST 4=XX 6=LE 4=EX 4=LE 3=EX 1=LE 3=EX 2=LE 7=EX 3=LE 4=EX 13=LE 12=EX 1=LE 1=EX",
    "10=NU 4=EX 2=XX 38=UP 1=XX 1=UP 5=XX 1=UP 2=XX 43=LE 1=XX 1=LO 332=LE 1=XX 4=LE 2=XX 7=LE",
    "1=XX 1=LE 1=XX 4=LE 2=XX 41=LE 1=XX 4=LE 2=XX 33=LE 1=XX 4=LE 2=XX 7=LE 1=XX 1=LE 1=XX 4=LE",
    "2=XX 15=LE 1=XX 57=LE 1=XX 4=LE 2=XX 67=LE 2=XX 3=EX 2=XX 1=ST 4=XX 2=ST 23=XX 16=LE 16=XX",
    "86=UP 2=XX 6=LO 3=XX 620=LE 1=XX 1=ST 17=LE 1=SP 26=LE 2=CL 3=XX 75=LE 3=XX 11=LE 7=XX",
    "18=LE 4=EX 9=XX 19=LE 3=EX 2=ST 9=XX 18=LE 2=EX 12=XX 13=LE 1=XX 3=LE 1=XX 2=EX 12=XX 52=LE",
    "32=EX 3=XX 1=LE 4=XX 1=LE 1=EX 2=XX 10=NU 24=XX 1=SC 1=ST 4=XX 1=SC 1=ST 1=XX 3=EX 1=FO",
    "1=EX 10=NU 6=XX 89=LE 7=XX 5=LE 2=EX 34=LE 1=EX 1=LE 5=XX 70=LE 10=XX 31=LE 1=XX 12=EX 4=XX",
    "12=EX 8=XX 2=ST 10=NU 30=LE 2=XX 5=LE 11=XX 44=LE 4=XX 26=LE 6=XX 10=NU 38=XX 23=LE 5=EX",
    "4=XX 53=LE 10=EX 1=XX 29=EX 2=XX 1=EX 10=NU 6=XX 10=NU 13=XX 1=LE 4=ST 4=XX 31=EX 49=XX",
    "5=EX 47=LE 17=EX 8=LE 1=XX 2=ST 10=NU 2=ST 2=XX 2=ST 11=XX 9=EX 9=XX 3=ST 3=EX 30=LE 13=EX",
    "2=LE 10=NU 44=LE 14=EX 12=XX 36=LE 20=EX 3=XX 2=ST 3=XX 10=NU 3=XX 3=LE 10=NU 36=LE 2=ST",
    "9=LO 1=UP 1=LO 5=XX 43=LE 2=XX 3=LE 16=XX 3=EX 1=XX 21=EX 4=LE 1=EX 6=LE 1=EX 2=LE 3=EX",
    "1=LE 5=XX 192=LO 64=EX 1=UP 1=LO 1=UP 1=LO 1=UP 1=LO 1=UP 1=LO 1=UP 1=LO 1=UP 1=LO 1=UP",
    "1=LO 1=UP 1=LO 1=UP 1=LO 1=UP 1=LO 1=UP 1=LO 1=UP 1=LO 1=UP 1=LO 1=UP 1=LO 1=UP 1=LO 1=UP",
    "1=LO 1=UP 1=LO 1=UP 1=LO 1=UP 1=LO 1=UP 1=LO 1=UP 1=LO 1=UP 1=LO 1=UP 1=LO 1=UP 1=LO 1=UP",
    "1=LO 1=UP 1=LO 1=UP 1=LO 1=UP 1=LO 1=UP 1=LO 1=UP 1=LO 1=UP 1=LO 1=UP 1=LO 1=UP 1=LO 1=UP",
    "1=LO 1=UP 1=LO 1=UP 1=LO 1=UP 1=LO 1=UP 1=LO 1=UP 1=LO 1=UP 1=LO 1=UP 1=LO 1=UP 1=LO 1=UP",
    "1=LO 1=UP 1=LO 1=UP 1=LO 1=UP 1=LO 1=UP 1=LO 1=UP 1=LO 1=UP 1=LO 1=UP 1=LO 1=UP 1=LO 1=UP",
    "1=LO 1=UP 1=LO 1=UP 1=LO 1=UP 1=LO 1=UP 1=LO 1=UP 1=LO 1=UP 1=LO 1=UP 1=LO 1=UP 1=LO 1=UP",
    "1=LO 1=UP 1=LO 1=UP 1=LO 1=UP 1=LO 1=UP 1=LO 1=UP 1=LO 1=UP 1=LO 1=UP 1=LO 1=UP 1=LO 1=UP",
    "1=LO 1=UP 1=LO 1=UP 1=LO 1=UP 1=LO 1=UP 1=LO 1=UP 9=LO 1=UP 1=LO 1=UP 1=LO 1=UP 1=LO 1=UP",
    "1=LO 1=UP 1=LO 1=UP 1=LO 1=UP 1=LO 1=UP 1=LO 1=UP 1=LO 1=UP 1=LO 1=UP 1=LO 1=UP 1=LO 1=UP",
    "1=LO 1=UP 1=LO 1=UP 1=LO 1=UP 1=LO 1=UP 1=LO 1=UP 1=LO 1=UP 1=LO 1=UP 1=LO 1=UP 1=LO 1=UP",
    "1=LO 1=UP 1=LO 1=UP 1=LO 1=UP 1=LO 1=UP 1=LO 1=UP 1=LO 1=UP 1=LO 1=UP 1=LO 1=UP 1=LO 1=UP",
    "1=LO 1=UP 1=LO 1=UP 1=LO 1=UP 1=LO 1=UP 1=LO 1=UP 1=LO 1=UP 1=LO 1=UP 1=LO 1=UP 1=LO 1=UP",
    "1=LO 1=UP 1=LO 1=UP 1=LO 1=UP 1=LO 1=UP 1=LO 1=UP 1=LO 1=UP 1=LO 1=UP 1=LO 1=UP 1=LO 1=UP",
    "9=LO 8=UP 6=LO 2=XX 6=UP 2=XX 8=LO 8=UP 8=LO 8=UP 6=LO 2=XX 6=UP 2=XX 8=LO 1=XX 1=UP 1=XX",
    "1=UP 1=XX 1=UP 1=XX 1=UP 8=LO 8=UP 14=LO 2=XX 8=LO 8=UP 8=LO 8=UP 8=LO 8=UP 5=LO 1=XX 2=LO",
    "5=UP 1=XX 1=LO 3=XX 3=LO 1=XX 2=LO 5=UP 3=XX 4=LO 2=XX 2=LO 4=UP 4=XX 8=LO 5=UP 5=XX 3=LO",
    "1=XX 2=LO 5=UP 3=XX 11=SP 1=FO 2=EX 2=FO 3=XX 2=SC 3=XX 8=CL 4=XX 1=AT 3=XX 2=SE 5=FO 1=SP",
    "9=XX 2=CL 1=XX 2=ST 7=XX 2=CL 3=ST 21=XX 1=SP 5=FO 1=XX 10=FO 1=XX 1=LO 11=XX 2=CL 1=LO",
    "13=XX 2=CL 1=XX 13=LO 51=XX 33=EX 17=XX 1=UP 4=XX 1=UP 2=XX 1=LO 3=UP 2=LO 3=UP 1=LO 1=XX",
    "1=UP 3=XX 5=UP 6=XX 1=UP 1=XX 1=UP 1=XX 1=UP 1=XX 4=UP 1=XX 1=LO 4=UP 1=LO 4=LE 1=LO 2=XX",
    "2=LO 2=UP 5=XX 1=UP 4=LO 4=XX 1=LO 17=XX 16=UP 16=LO 3=LE 1=UP 1=LO 4=LE 383=XX 4=CL 29=XX",
    "2=CL 395=XX 26=UP 26=LO 625=XX 6=CL 7=XX 14=CL 79=XX 2=CL 31=XX 10=CL 403=XX 22=CL 63=XX",
    "4=CL 32=XX 2=CL 514=XX 48=UP 48=LO 1=UP 1=LO 3=UP 2=LO 1=UP 1=LO 1=UP 1=LO 1=UP 1=LO 4=UP",
    "1=LO 1=UP 2=LO 1=UP 8=LO 3=UP 1=LO 1=UP 1=LO 1=UP 1=LO 1=UP 1=LO 1=UP 1=LO 1=UP 1=LO 1=UP",
    "1=LO 1=UP 1=LO 1=UP 1=LO 1=UP 1=LO 1=UP 1=LO 1=UP 1=LO 1=UP 1=LO 1=UP 1=LO 1=UP 1=LO 1=UP",
    "1=LO 1=UP 1=LO 1=UP 1=LO 1=UP 1=LO 1=UP 1=LO 1=UP 1=LO 1=UP 1=LO 1=UP 1=LO 1=UP 1=LO 1=UP",
    "1=LO 1=UP 1=LO 1=UP 1=LO 1=UP 1=LO 1=UP 1=LO 1=UP 1=LO 1=UP 1=LO 1=UP 1=LO 1=UP 1=LO 1=UP",
    "1=LO 1=UP 1=LO 1=UP 1=LO 1=UP 1=LO 1=UP 1=LO 1=UP 1=LO 1=UP 1=LO 1=UP 1=LO 1=UP 1=LO 1=UP",
    "1=LO 1=UP 1=LO 1=UP 1=LO 1=UP 1=LO 1=UP 1=LO 1=UP 1=LO 1=UP 1=LO 1=UP 2=LO 6=XX 1=UP 1=LO",
    "1=UP 1=LO 3=EX 1=UP 1=LO 12=XX 38=LO 1=XX 1=LO 5=XX 1=LO 2=XX 56=LE 7=XX 1=LE 15=XX 1=EX",
    "23=LE 9=XX 7=LE 1=XX 7=LE 1=XX 7=LE 1=XX 7=LE 1=XX 7=LE 1=XX 7=LE 1=XX 7=LE 1=XX 7=LE 1=XX",
    "32=EX 14=CL 14=XX 2=CL 2=XX 10=CL 4=XX 1=ST 1=LE 12=XX 1=ST 5=XX 1=CL 16=XX 2=ST 8=CL",
    "419=XX 1=SP 1=SC 1=ST 2=XX 3=LE 10=CL 2=XX 8=CL 1=XX 3=CL 1=XX 9=LE 6=EX 1=XX 5=LE 2=XX",
    "5=LE 4=XX 86=LE 2=XX 2=EX 2=XX 3=LE 1=XX 90=LE 1=XX 4=LE 5=XX 43=LE 1=XX 94=LE 17=XX 32=LE",
    "48=XX 16=LE 512=XX 6592=LE 64=XX 22157=LE 67=XX 46=LE 1=XX 1=ST 269=LE 1=XX 2=ST 16=LE",
    "10=NU 2=LE 20=XX 1=UP 1=LO 1=UP 1=LO 1=UP 1=LO 1=UP 1=LO 1=UP 1=LO 1=UP 1=LO 1=UP 1=LO 1=UP",
    "1=LO 1=UP 1=LO 1=UP 1=LO 1=UP 1=LO 1=UP 1=LO 1=UP 1=LO 1=UP 1=LO 1=UP 1=LO 1=UP 1=LO 1=UP",
    "1=LO 1=UP 1=LO 1=UP 1=LO 1=UP 1=LO 1=UP 1=LO 1=UP 1=LO 1=UP 1=LO 1=LE 4=EX 1=XX 10=EX 1=XX",
    "1=LE 1=UP 1=LO 1=UP 1=LO 1=UP 1=LO 1=UP 1=LO 1=UP 1=LO 1=UP 1=LO 1=UP 1=LO 1=UP 1=LO 1=UP",
    "1=LO 1=UP 1=LO 1=UP 1=LO 1=UP 1=LO 1=UP 1=LO 1=UP 3=LO 2=EX 80=LE 2=EX 1=XX 1=ST 3=XX 1=ST",
    "31=XX 9=LE 2=XX 1=UP 1=LO 1=UP 1=LO 1=UP 1=LO 1=UP 1=LO 1=UP 1=LO 1=UP 1=LO 1=UP 3=LO 1=UP",
    "1=LO 1=UP 1=LO 1=UP 1=LO 1=UP 1=LO 1=UP 1=LO 1=UP 1=LO 1=UP 1=LO 1=UP 1=LO 1=UP 1=LO 1=UP",
    "1=LO 1=UP 1=LO 1=UP 1=LO 1=UP 1=LO 1=UP 1=LO 1=UP 1=LO 1=UP 1=LO 1=UP 1=LO 1=UP 1=LO 1=UP",
    "1=LO 1=UP 1=LO 1=UP 1=LO 1=UP 1=LO 1=UP 1=LO 1=UP 1=LO 1=UP 1=LO 1=UP 1=LO 1=UP 1=LO 1=UP",
    "1=LO 1=UP 1=LO 1=UP 1=LO 1=UP 10=LO 1=UP 1=LO 1=UP 1=LO 2=UP 1=LO 1=UP 1=LO 1=UP 1=LO 1=UP",
    "1=LO 1=UP 1=LO 1=LE 2=XX 1=UP 1=LO 1=UP 1=LO 1=LE 1=UP 1=LO 1=UP 3=LO 1=UP 1=LO 1=UP 1=LO",
    "1=UP 1=LO 1=UP 1=LO 1=UP 1=LO 1=UP 1=LO 1=UP 1=LO 1=UP 1=LO 1=UP 1=LO 1=UP 1=LO 5=UP 1=LO",
    "5=UP 1=LO 1=UP 1=LO 1=UP 1=LO 1=UP 1=LO 1=UP 1=LO 1=UP 1=LO 1=UP 1=LO 1=UP 1=LO 4=UP 1=LO",
    "1=UP 1=LO 2=UP 1=LO 2=XX 1=UP 1=LO 1=XX 1=LO 1=XX 1=LO 1=UP 1=LO 1=UP 1=LO 1=UP 1=LO 1=UP",
    "21=XX 3=LO 1=UP 1=LO 1=LE 3=LO 7=LE 1=EX 3=LE 1=EX 4=LE 1=EX 23=LE 5=EX 4=XX 1=EX 19=XX",
    "52=LE 2=XX 2=ST 8=XX 2=EX 50=LE 18=EX 8=XX 2=ST 10=NU 6=XX 18=EX 6=LE 3=XX 1=LE 1=XX 2=LE",
    "1=EX 10=NU 28=LE 8=EX 1=XX 1=ST 23=LE 13=EX 12=XX 29=LE 3=XX 4=EX 47=LE 14=EX 7=XX 2=ST",
    "5=XX 1=LE 10=NU 6=XX 5=LE 1=EX 10=LE 10=NU 5=LE 1=XX 41=LE 14=EX 9=XX 3=LE 1=EX 8=LE 2=EX",
    "2=XX 10=NU 3=XX 3=ST 23=LE 3=XX 1=LE 3=EX 50=LE 1=EX 1=LE 3=EX 2=LE 2=EX 5=LE 2=EX 1=LE",
    "1=EX 1=LE 24=XX 3=LE 2=XX 11=LE 5=EX 2=ST 3=LE 2=EX 10=XX 6=LE 2=XX 6=LE 2=XX 6=LE 9=XX",
    "7=LE 1=XX 7=LE 1=XX 43=LO 1=XX 14=LO 6=XX 80=LO 35=LE 8=EX 1=ST 2=EX 2=XX 10=NU 6=XX",
    "11172=LE 12=XX 23=LE 4=XX 49=LE 8452=XX 366=LE 2=XX 106=LE 38=XX 7=LO 12=XX 5=LO 5=XX 1=LE",
    "1=EX 10=LE 1=XX 13=LE 1=XX 5=LE 1=XX 1=LE 1=XX 2=LE 1=XX 2=LE 1=XX 108=LE 33=XX 363=LE 2=CL",
    "16=XX 64=LE 2=XX 54=LE 40=XX 12=LE 4=XX 16=EX 2=SC 1=XX 1=SC 3=XX 2=CL 7=XX 16=EX 1=XX 2=SC",
    "2=XX 16=CL 2=XX 2=CL 7=XX 2=SC 1=AT 2=XX 1=SC 2=ST 1=SC 6=CL 4=XX 1=SC 12=XX 5=LE 1=XX",
    "135=LE 2=XX 1=FO 1=XX 1=ST 6=XX 2=CL 2=XX 2=SC 1=AT 1=XX 10=NU 1=SC 4=XX 1=ST 1=XX 26=UP",
    "1=CL 1=XX 1=CL 3=XX 26=LO 1=CL 1=XX 1=CL 1=XX 2=CL 1=ST 2=CL 1=SC 1=XX 56=LE 2=EX 31=LE",
    "3=XX 6=LE 2=XX 6=LE 2=XX 6=LE 2=XX 3=LE 28=XX 3=FO 4=XX 12=LE 1=XX 26=LE 1=XX 19=LE 1=XX",
    "2=LE 1=XX 15=LE 2=XX 14=LE 34=XX 123=LE 69=XX 53=LE 136=XX 1=EX 130=XX 29=LE 3=XX 49=LE",
    "15=XX 1=EX 31=XX 32=LE 13=XX 30=LE 5=XX 38=LE 5=EX 5=XX 30=LE 2=XX 36=LE 4=XX 8=LE 1=XX",
    "5=LE 42=XX 40=UP 40=LO 78=LE 2=XX 10=NU 6=XX 36=UP 4=XX 36=LO 4=XX 40=LE 8=XX 52=LE 12=XX",
    "11=UP 1=XX 15=UP 1=XX 7=UP 1=XX 2=UP 1=XX 11=LO 1=XX 15=LO 1=XX 7=LO 1=XX 2=LO 3=XX 52=LE",
    "12=XX 311=LE 9=XX 22=LE 10=XX 8=LE 24=XX 1=LO 2=LE 3=LO 1=XX 42=LO 1=XX 9=LO 69=XX 6=LE",
    "2=XX 1=LE 1=XX 44=LE 1=XX 2=LE 3=XX 1=LE 2=XX 23=LE 10=XX 23=LE 9=XX 31=LE 65=XX 19=LE 1=XX",
    "2=LE 10=XX 22=LE 10=XX 26=LE 70=XX 56=LE 6=XX 2=LE 64=XX 1=LE 3=EX 1=XX 2=EX 5=XX 4=EX 4=LE",
    "1=XX 3=LE 1=XX 29=LE 2=XX 3=EX 4=XX 1=EX 22=XX 2=ST 8=XX 29=LE 3=XX 29=LE 35=XX 8=LE 1=XX",
    "28=LE 2=EX 25=XX 54=LE 10=XX 22=LE 10=XX 19=LE 13=XX 18=LE 110=XX 73=LE 55=XX 51=UP 13=XX",
    "51=LO 13=XX 36=LE 4=EX 8=XX 10=NU 6=XX 10=NU 6=LE 22=UP 3=XX 5=EX 1=XX 1=LE 22=LO 250=XX",
    "42=LE 1=XX 2=EX 3=XX 2=LE 16=XX 3=LE 55=XX 4=EX 29=LE 10=XX 1=LE 8=XX 22=LE 11=EX 4=XX 5=ST",
    "22=XX 18=LE 4=EX 4=ST 38=XX 21=LE 27=XX 23=LE 9=XX 3=EX 53=LE 15=EX 2=ST 29=XX 10=NU 1=EX",
    "2=LE 2=EX 1=LE 9=XX 4=EX 45=LE 11=EX 2=XX 1=FO 4=ST 1=EX 10=XX 1=FO 2=XX 25=LE 7=XX 10=NU",
    "6=XX 3=EX 36=LE 14=EX 1=XX 10=NU 1=XX 3=ST 1=LE 2=EX 1=LE 8=XX 35=LE 1=EX 2=XX 1=LE 9=XX",
    "3=EX 48=LE 14=EX 4=LE 2=ST 2=XX 4=EX 1=ST 2=EX 10=NU 1=LE 1=XX 1=LE 1=XX 2=ST 32=XX 18=LE",
    "1=XX 25=LE 12=EX 2=ST 1=XX 2=ST 1=XX 1=EX 2=LE 1=EX 62=XX 7=LE 1=XX 1=LE 1=XX 4=LE 1=XX",
    "15=LE 1=XX 10=LE 1=ST 6=XX 47=LE 12=EX 5=XX 10=NU 6=XX 4=EX 1=XX 8=LE 2=XX 2=LE 2=XX 22=LE",
    "1=XX 7=LE 1=XX 2=LE 1=XX 5=LE 1=XX 2=EX 1=LE 7=EX 2=XX 2=EX 2=XX 3=EX 2=XX 1=LE 6=XX 1=EX",
    "5=XX 5=LE 2=EX 2=XX 7=EX 3=XX 5=EX 11=XX 10=LE 1=XX 1=LE 2=XX 1=LE 1=XX 38=LE 1=XX 1=LE",
    "9=EX 1=XX 1=EX 2=XX 1=EX 1=XX 4=EX 1=XX 5=EX 1=LE 1=EX 1=LE 2=ST 11=XX 2=EX 29=XX 53=LE",
    "18=EX 4=LE 2=ST 3=XX 10=NU 4=XX 1=EX 3=LE 30=XX 48=LE 20=EX 2=LE 1=XX 1=LE 8=XX 10=NU",
    "166=XX 47=LE 7=EX 2=XX 9=EX 1=XX 2=ST 5=XX 15=ST 4=LE 2=EX 34=XX 48=LE 17=EX 2=ST 1=XX 1=LE",
    "11=XX 10=NU 38=XX 43=LE 13=EX 1=LE 7=XX 10=NU 6=XX 20=NU 28=XX 27=LE 2=XX 15=EX 4=XX 10=NU",
    "2=XX 3=ST 1=XX 7=LE 185=XX 44=LE 15=EX 101=XX 32=UP 32=LO 10=NU 21=XX 8=LE 2=XX 1=LE 2=XX",
    "8=LE 1=XX 2=LE 1=XX 24=LE 6=EX 1=XX 2=EX 2=XX 4=EX 1=LE 1=EX 1=LE 2=EX 1=ST 1=XX 1=ST 9=XX",
    "10=NU 70=XX 8=LE 2=XX 39=LE 7=EX 2=XX 7=EX 1=LE 1=XX 1=LE 1=EX 27=XX 1=LE 10=EX 40=LE 7=EX",
    "1=LE 4=EX 3=XX 2=ST 3=XX 1=EX 8=XX 1=LE 11=EX 46=LE 16=EX 1=XX 2=ST 1=LE 18=XX 73=LE 199=XX",
    "33=LE 15=XX 10=NU 6=XX 9=LE 1=XX 37=LE 8=EX 1=XX 8=EX 1=LE 2=ST 13=XX 10=NU 24=XX 30=LE",
    "2=XX 22=EX 1=XX 14=EX 73=XX 7=LE 1=XX 2=LE 1=XX 38=LE 6=EX 3=XX 1=EX 1=XX 2=EX 1=XX 7=EX",
    "1=LE 1=EX 8=XX 10=NU 6=XX 6=LE 1=XX 2=LE 1=XX 32=LE 5=EX 1=XX 2=EX 1=XX 5=EX 1=LE 7=XX",
    "10=NU 310=XX 19=LE 4=EX 2=ST 7=XX 2=EX 1=LE 1=EX 13=LE 1=XX 34=LE 7=EX 3=XX 5=EX 2=ST 11=XX",
    "10=NU 1=EX 85=XX 1=LE 79=XX 922=LE 102=XX 111=LE 17=XX 196=LE 2636=XX 97=LE 15=XX 1072=LE",
    "16=FO 1=EX 6=LE 15=EX 10=XX 3995=LE 5=XX 583=LE 6841=XX 30=LE 18=EX 10=NU 1734=XX 569=LE",
    "7=XX 31=LE 1=XX 10=NU 4=XX 2=ST 79=LE 1=XX 10=NU 6=XX 30=LE 2=XX 5=EX 1=ST 10=XX 48=LE 7=EX",
    "2=ST 7=XX 4=LE 1=ST 11=XX 10=NU 9=XX 21=LE 5=XX 19=LE 432=XX 45=LE 1=XX 2=ST 10=NU 198=XX",
    "32=UP 32=LO 24=XX 1=ST 103=XX 75=LE 4=XX 1=EX 1=LE 55=EX 7=XX 4=EX 13=LE 64=XX 2=LE 1=XX",
    "1=LE 1=EX 11=XX 2=EX 14=XX 6136=LE 8=XX 1238=LE 41=XX 10=LE 8935=XX 4=LE 1=XX 7=LE 1=XX",
    "2=LE 1=XX 291=LE 15=XX 1=LE 29=XX 3=LE 2=XX 1=LE 14=XX 4=LE 8=XX 396=LE 2308=XX 107=LE 5=XX",
    "13=LE 3=XX 9=LE 7=XX 10=LE 3=XX 2=EX 1=ST 4=FO 4172=XX 10=NU 518=XX 46=EX 2=XX 23=EX 542=XX",
    "5=EX 3=XX 6=EX 8=FO 8=EX 2=XX 7=EX 30=XX 4=EX 148=XX 3=EX 443=XX 26=UP 26=LO 26=UP 7=LO",
    "1=XX 18=LO 26=UP 26=LO 1=UP 1=XX 2=UP 2=XX 1=UP 2=XX 2=UP 2=XX 4=UP 1=XX 8=UP 4=LO 1=XX",
    "1=LO 1=XX 7=LO 1=XX 11=LO 26=UP 26=LO 2=UP 1=XX 4=UP 2=XX 8=UP 1=XX 7=UP 1=XX 26=LO 2=UP",
    "1=XX 4=UP 1=XX 5=UP 1=XX 1=UP 3=XX 7=UP 1=XX 26=LO 26=UP 26=LO 26=UP 26=LO 26=UP 26=LO",
    "26=UP 26=LO 26=UP 26=LO 26=UP 28=LO 2=XX 25=UP 1=XX 25=LO 1=XX 6=LO 25=UP 1=XX 25=LO 1=XX",
    "6=LO 25=UP 1=XX 25=LO 1=XX 6=LO 25=UP 1=XX 25=LO 1=XX 6=LO 25=UP 1=XX 25=LO 1=XX 6=LO 1=UP",
    "1=LO 2=XX 50=NU 512=XX 55=EX 4=XX 50=EX 8=XX 1=EX 14=XX 1=EX 3=XX 1=ST 18=XX 5=EX 1=XX",
    "15=EX 1104=XX 10=LO 1=LE 20=LO 6=XX 6=LO 213=XX 7=EX 1=XX 17=EX 2=XX 7=EX 1=XX 2=EX 1=XX",
    "5=EX 5=XX 62=LO 33=XX 1=EX 112=XX 45=LE 3=XX 7=EX 7=LE 2=XX 10=NU 4=XX 1=LE 321=XX 30=LE",
    "1=EX 17=XX 44=LE 4=EX 10=NU 470=XX 28=LE 4=EX 10=NU 214=XX 30=LE 2=EX 1=LE 10=NU 485=XX",
    "7=LE 1=XX 4=LE 1=XX 2=LE 1=XX 15=LE 1=XX 197=LE 11=XX 7=EX 41=XX 34=UP 34=LO 7=EX 1=LE 4=XX",
    "10=NU 1190=XX 4=LE 1=XX 27=LE 1=XX 2=LE 1=XX 1=LE 2=XX 1=LE 1=XX 10=LE 1=XX 4=LE 1=XX 1=LE",
    "1=XX 1=LE 6=XX 1=LE 4=XX 1=LE 1=XX 1=LE 1=XX 1=LE 1=XX 3=LE 1=XX 2=LE 1=XX 1=LE 2=XX 1=LE",
    "1=XX 1=LE 1=XX 1=LE 1=XX 1=LE 1=XX 1=LE 1=XX 2=LE 1=XX 1=LE 2=XX 4=LE 1=XX 7=LE 1=XX 4=LE",
    "1=XX 4=LE 1=XX 1=LE 1=XX 10=LE 1=XX 17=LE 5=XX 3=LE 1=XX 5=LE 1=XX 17=LE 628=XX 26=UP 6=XX",
    "26=UP 6=XX 26=UP 1260=XX 3=CL 1399=XX 10=NU 1030=XX 42720=LE 32=XX 4154=LE 6=XX 222=LE 2=XX",
    "5762=LE 14=XX 7473=LE 15=XX 622=LE 2466=XX 542=LE 1506=XX 4939=LE 5=XX 4192=LE 711761=XX",
    "1=FO 30=XX 96=EX 128=XX 240=EX 196112=XX"])

/-- The grapheme cluster break classes with the ways to spell them, the short name first. -/
def graphemeBreakSpellings : String :=
  (" ".intercalate [
    "CN Control | CR | EX Extend | L | LF | LV | LVT | PP Prepend | RI Regional_Indicator | SM",
    "SpacingMark | T | V | ZWJ"])

/-- The word break classes with the ways to spell them, the short name first. -/
def wordBreakSpellings : String :=
  (" ".intercalate [
    "CR | DQ Double_Quote | EX ExtendNumLet | Extend | FO Format | HL Hebrew_Letter | KA",
    "Katakana | LE ALetter | LF | MB MidNumLet | ML MidLetter | MN MidNum | NL Newline | NU",
    "Numeric | RI Regional_Indicator | SQ Single_Quote | WSegSpace | ZWJ"])

/-- The sentence break classes with the ways to spell them, the short name first. -/
def sentenceBreakSpellings : String :=
  (" ".intercalate [
    "AT ATerm | CL Close | CR | EX Extend | FO Format | LE OLetter | LF | LO Lower | NU Numeric",
    "| SC SContinue | SE Sep | SP Sp | ST STerm | UP Upper"])

end TreeQuery.Regex.Unicode
