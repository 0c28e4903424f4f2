import TreeQuery.Regex.Unicode.Runs

/-!
# Age

The version of Unicode in which each code point was assigned, up to 16.0. `NA` marks code points
that are not assigned.
-/

namespace TreeQuery.Regex.Unicode

/-- The ages of all code points. -/
def ageRuns : Runs := Runs.ofText
  (" ".intercalate [
    "502=1.1 4=3.0 30=1.1 8=3.0 1=3.2 1=4.0 18=3.0 3=4.0 11=4.1 14=5.0 89=1.1 5=3.0 2=4.0 47=1.1",
    "1=3.0 10=1.1 5=3.0 17=4.0 70=1.1 9=3.0 1=3.2 8=4.0 5=4.1 3=4.0 2=1.1 1=3.0 13=3.2 4=5.1",
    "2=1.1 2=5.1 2=NA 1=1.1 3=5.0 1=1.1 1=7.0 4=NA 7=1.1 1=NA 1=1.1 1=NA 20=1.1 1=NA 44=1.1",
    "1=5.1 7=1.1 1=3.0 2=3.2 1=1.1 1=3.0 1=1.1 1=3.0 1=1.1 1=3.0 1=1.1 1=3.0 18=1.1 2=3.1 1=3.2",
    "5=4.0 4=4.1 1=3.0 12=1.1 1=3.0 66=1.1 1=3.0 12=1.1 1=3.0 41=1.1 1=5.1 2=3.0 2=3.2 4=3.0",
    "53=1.1 2=3.2 2=1.1 2=3.2 2=1.1 2=3.2 1=5.0 28=1.1 2=3.0 8=1.1 2=4.1 2=1.1 6=5.0 16=3.2",
    "4=5.0 16=5.1 2=5.2 2=6.0 8=7.0 1=NA 38=1.1 2=NA 7=1.1 1=11.0 39=1.1 1=11.0 1=1.1 1=3.0 2=NA",
    "2=7.0 1=6.1 1=NA 17=2.0 1=4.1 13=2.0 10=1.1 1=5.0 9=1.1 1=2.0 3=4.1 8=NA 27=1.1 4=NA 1=11.0",
    "5=1.1 11=NA 4=4.0 1=6.1 1=7.0 5=5.1 1=4.1 1=1.1 9=4.0 5=5.1 1=1.1 1=6.3 1=14.0 1=4.1 1=1.1",
    "1=6.0 26=1.1 5=5.1 19=1.1 3=3.0 3=4.0 6=4.1 1=6.0 14=1.1 2=3.2 72=1.1 2=3.0 5=1.1 1=3.0",
    "15=1.1 1=3.0 30=1.1 2=4.0 10=1.1 5=3.0 1=4.0 14=3.0 1=NA 30=3.0 3=4.0 27=3.0 2=NA 3=4.0",
    "30=4.1 18=5.1 49=3.0 1=3.2 14=NA 59=5.0 2=NA 3=11.0 46=5.2 2=NA 15=5.2 1=NA 28=6.0 2=NA",
    "1=6.0 1=NA 11=10.0 5=NA 31=14.0 1=NA 2=14.0 5=NA 1=16.0 8=14.0 1=6.1 1=7.0 11=6.1 6=7.0",
    "2=8.0 1=14.0 8=9.0 10=13.0 11=14.0 1=11.0 15=9.0 1=8.0 27=6.1 1=7.0 1=5.2 3=1.1 1=4.0",
    "53=1.1 2=6.0 18=1.1 1=5.2 1=6.0 5=1.1 1=5.2 2=6.0 25=1.1 2=5.1 5=6.0 1=7.0 2=5.2 2=5.0",
    "1=4.1 2=5.0 1=7.0 3=1.1 1=NA 8=1.1 2=NA 2=1.1 2=NA 22=1.1 1=NA 7=1.1 1=NA 1=1.1 3=NA 4=1.1",
    "2=NA 1=1.1 1=4.0 7=1.1 2=NA 2=1.1 2=NA 3=1.1 1=4.1 8=NA 1=1.1 4=NA 2=1.1 1=NA 5=1.1 2=NA",
    "21=1.1 1=5.2 2=10.0 1=11.0 2=NA 1=4.0 1=1.1 1=4.0 1=NA 6=1.1 4=NA 2=1.1 2=NA 22=1.1 1=NA",
    "7=1.1 1=NA 2=1.1 1=NA 2=1.1 1=NA 2=1.1 2=NA 1=1.1 1=NA 5=1.1 4=NA 2=1.1 2=NA 3=1.1 3=NA",
    "1=5.1 7=NA 4=1.1 1=NA 1=1.1 7=NA 15=1.1 1=5.1 1=11.0 10=NA 3=1.1 1=NA 7=1.1 1=4.0 1=1.1",
    "1=NA 3=1.1 1=NA 22=1.1 1=NA 7=1.1 1=NA 2=1.1 1=NA 5=1.1 2=NA 10=1.1 1=NA 3=1.1 1=NA 3=1.1",
    "2=NA 1=1.1 15=NA 1=1.1 3=4.0 2=NA 10=1.1 1=6.1 1=4.0 7=NA 1=8.0 6=10.0 1=NA 3=1.1 1=NA",
    "8=1.1 2=NA 2=1.1 2=NA 22=1.1 1=NA 7=1.1 1=NA 2=1.1 1=NA 1=4.0 4=1.1 2=NA 8=1.1 1=5.1 2=NA",
    "2=1.1 2=NA 3=1.1 7=NA 1=13.0 2=1.1 4=NA 2=1.1 1=NA 3=1.1 2=5.1 2=NA 11=1.1 1=4.0 6=6.0",
    "10=NA 2=1.1 1=NA 6=1.1 3=NA 3=1.1 1=NA 4=1.1 3=NA 2=1.1 1=NA 1=1.1 1=NA 2=1.1 3=NA 2=1.1",
    "3=NA 3=1.1 3=NA 8=1.1 1=4.1 3=1.1 4=NA 5=1.1 3=NA 3=1.1 1=NA 4=1.1 2=NA 1=5.1 6=NA 1=1.1",
    "14=NA 1=4.1 12=1.1 8=4.0 5=NA 1=7.0 3=1.1 1=11.0 8=1.1 1=NA 3=1.1 1=NA 23=1.1 1=NA 10=1.1",
    "1=7.0 5=1.1 2=NA 1=14.0 1=5.1 7=1.1 1=NA 3=1.1 1=NA 4=1.1 7=NA 2=1.1 1=NA 2=5.1 1=8.0 2=NA",
    "1=14.0 2=NA 2=1.1 2=5.1 2=NA 10=1.1 7=NA 1=12.0 8=5.1 1=9.0 1=7.0 2=1.1 1=11.0 8=1.1 1=NA",
    "3=1.1 1=NA 23=1.1 1=NA 10=1.1 1=NA 5=1.1 2=NA 2=4.0 7=1.1 1=NA 3=1.1 1=NA 4=1.1 7=NA 2=1.1",
    "6=NA 1=14.0 1=1.1 1=NA 2=1.1 2=5.0 2=NA 10=1.1 1=NA 2=5.0 1=15.0 12=NA 1=10.0 1=7.0 2=1.1",
    "1=13.0 8=1.1 1=NA 3=1.1 1=NA 23=1.1 1=6.0 16=1.1 1=6.0 2=10.0 1=5.1 6=1.1 1=5.1 1=NA 3=1.1",
    "1=NA 4=1.1 1=6.0 1=9.0 4=NA 3=9.0 1=1.1 7=9.0 1=8.0 2=1.1 2=5.1 2=NA 10=1.1 6=5.1 3=9.0",
    "7=5.1 1=NA 1=13.0 2=3.0 1=NA 18=3.0 3=NA 24=3.0 1=NA 9=3.0 1=NA 1=3.0 2=NA 7=3.0 3=NA 1=3.0",
    "4=NA 6=3.0 1=NA 1=3.0 1=NA 8=3.0 6=NA 10=7.0 2=NA 3=3.0 12=NA 58=1.1 4=NA 29=1.1 37=NA",
    "2=1.1 1=NA 1=1.1 1=NA 1=12.0 2=1.1 1=12.0 1=1.1 1=NA 1=12.0 1=1.1 6=12.0 4=1.1 1=12.0 7=1.1",
    "1=12.0 3=1.1 1=NA 1=1.1 1=NA 1=1.1 2=12.0 2=1.1 1=12.0 13=1.1 1=12.0 3=1.1 2=NA 5=1.1 1=NA",
    "1=1.1 1=NA 6=1.1 1=15.0 1=NA 10=1.1 2=NA 2=1.1 2=6.1 32=NA 72=2.0 1=NA 33=2.0 1=3.0 2=5.1",
    "4=NA 27=2.0 4=6.0 6=2.0 1=3.0 1=2.0 1=NA 21=2.0 3=3.0 7=2.0 1=3.0 1=2.0 3=3.0 1=NA 15=3.0",
    "1=NA 1=5.1 1=3.0 2=4.1 3=5.1 4=5.2 2=6.0 37=NA 34=3.0 1=5.1 5=3.0 1=5.1 2=3.0 1=5.1 7=3.0",
    "3=5.1 4=3.0 6=5.1 26=3.0 64=5.1 4=5.2 2=5.1 38=1.1 1=NA 1=6.1 5=NA 1=6.1 2=NA 39=1.1 2=3.2",
    "2=4.1 1=1.1 1=4.1 3=6.1 90=1.1 5=5.2 68=1.1 5=5.2 82=1.1 6=5.2 7=3.0 1=4.1 63=3.0 1=4.1",
    "1=3.0 1=NA 4=3.0 2=NA 7=3.0 1=NA 1=3.0 1=NA 4=3.0 2=NA 39=3.0 1=4.1 1=3.0 1=NA 4=3.0 2=NA",
    "31=3.0 1=4.1 1=3.0 1=NA 4=3.0 2=NA 7=3.0 1=NA 1=3.0 1=NA 4=3.0 2=NA 7=3.0 1=4.1 7=3.0 1=NA",
    "23=3.0 1=4.1 31=3.0 1=4.1 1=3.0 1=NA 4=3.0 2=NA 7=3.0 1=4.1 39=3.0 1=4.1 19=3.0 2=NA 2=6.0",
    "2=4.1 28=3.0 3=NA 26=4.1 6=NA 85=3.0 1=8.0 2=NA 6=8.0 2=NA 1=5.2 630=3.0 9=5.2 29=3.0 3=NA",
    "81=3.0 8=7.0 7=NA 13=3.2 1=14.0 7=3.2 1=14.0 9=NA 1=14.0 23=3.2 9=NA 20=3.2 12=NA 13=3.2",
    "1=NA 3=3.2 1=NA 2=3.2 12=NA 93=3.0 1=4.0 2=NA 10=3.0 6=NA 10=4.0 6=NA 15=3.0 1=14.0 10=3.0",
    "6=NA 88=3.0 1=11.0 7=NA 42=3.0 1=5.1 5=NA 70=5.2 10=NA 29=4.0 2=7.0 1=NA 12=4.0 4=NA 12=4.0",
    "4=NA 1=4.0 3=NA 42=4.0 2=NA 5=4.0 11=NA 42=4.1 2=5.2 4=NA 26=4.1 6=NA 10=4.1 1=5.2 3=NA",
    "2=4.1 32=4.0 28=4.1 2=NA 2=4.1 63=5.2 1=NA 29=5.2 2=NA 11=5.2 6=NA 10=5.2 6=NA 14=5.2 2=NA",
    "15=7.0 2=13.0 14=14.0 49=NA 76=5.0 1=14.0 1=NA 2=16.0 45=5.0 2=14.0 1=16.0 43=5.1 3=6.1",
    "12=5.1 6=6.1 52=6.0 8=NA 4=6.0 56=5.1 3=NA 15=5.1 3=NA 51=5.1 9=9.0 2=16.0 5=NA 43=11.0",
    "2=NA 3=11.0 8=6.1 8=NA 35=5.2 4=6.1 1=10.0 2=7.0 1=12.0 5=NA 108=4.0 88=4.1 7=5.0 28=5.1",
    "15=7.0 4=10.0 1=14.0 1=9.0 1=6.0 1=5.2 2=5.0 155=1.1 1=2.0 4=5.1 90=1.1 6=5.1 22=1.1 2=NA",
    "6=1.1 2=NA 38=1.1 2=NA 6=1.1 2=NA 8=1.1 1=NA 1=1.1 1=NA 1=1.1 1=NA 1=1.1 1=NA 31=1.1 2=NA",
    "53=1.1 1=NA 15=1.1 1=NA 14=1.1 2=NA 6=1.1 1=NA 19=1.1 2=NA 3=1.1 1=NA 9=1.1 1=NA 47=1.1",
    "1=3.0 23=1.1 1=3.2 6=3.0 5=3.2 2=4.0 2=4.1 1=3.2 7=4.1 5=3.2 1=5.1 1=NA 4=6.3 7=1.1 1=3.2",
    "2=NA 27=1.1 1=NA 5=4.1 8=6.0 3=NA 11=1.1 1=2.0 1=2.1 3=3.0 2=3.2 4=4.1 3=5.2 1=6.0 1=6.2",
    "3=7.0 1=8.0 1=10.0 1=14.0 15=NA 18=1.1 2=3.0 7=3.2 1=4.1 4=5.0 1=5.1 15=NA 57=1.1 2=3.0",
    "1=4.0 1=4.1 15=3.2 1=4.1 2=5.0 1=5.1 3=5.2 48=1.1 1=3.0 1=5.0 4=5.1 1=5.2 2=8.0 4=NA 91=1.1",
    "9=3.0 12=3.2 242=1.1 14=3.2 1=1.1 1=3.0 121=1.1 1=3.0 1=3.2 30=3.0 52=3.2 2=4.0 11=4.1",
    "12=5.0 1=5.2 11=6.0 7=7.0 4=9.0 1=10.0 37=1.1 2=3.0 3=16.0 22=NA 11=1.1 21=NA 139=1.1",
    "20=3.2 1=4.0 150=1.1 10=3.2 80=1.1 8=3.0 8=3.2 20=1.1 2=4.0 2=3.2 1=4.1 1=3.0 86=1.1 2=3.0",
    "12=3.2 2=4.1 10=3.2 8=4.0 11=4.1 1=5.1 2=5.2 2=4.0 16=4.1 1=5.0 10=5.1 3=5.2 4=5.1 10=5.2",
    "1=6.0 19=5.2 1=6.0 1=5.2 4=6.0 24=5.2 1=7.0 4=1.1 1=6.0 4=1.1 2=6.0 28=1.1 1=6.0 35=1.1",
    "1=6.0 1=1.1 1=6.0 4=1.1 3=6.0 1=1.1 1=5.2 7=1.1 2=6.0 7=1.1 14=3.2 31=1.1 3=6.0 24=1.1",
    "1=6.0 14=1.1 1=6.0 7=4.1 4=5.0 1=6.1 1=5.1 1=6.1 2=6.0 28=3.2 4=5.1 16=3.2 256=3.0 512=3.2",
    "14=4.0 6=4.1 7=5.0 5=5.1 4=5.0 41=5.1 3=7.0 5=5.1 5=5.2 26=7.0 2=NA 32=7.0 1=NA 1=13.0",
    "34=7.0 3=11.0 12=7.0 1=12.0 8=7.0 1=10.0 25=11.0 4=8.0 15=11.0 1=12.0 47=4.1 1=14.0 47=4.1",
    "1=14.0 13=5.0 3=5.1 1=5.2 3=5.1 4=5.0 6=5.1 2=5.2 107=4.1 7=5.2 2=6.1 5=NA 45=4.1 1=NA",
    "1=6.1 5=NA 1=6.1 2=NA 54=4.1 2=6.1 7=NA 1=4.1 1=6.0 14=NA 1=6.0 23=4.1 9=NA 7=4.1 1=NA",
    "7=4.1 1=NA 7=4.1 1=NA 7=4.1 1=NA 7=4.1 1=NA 7=4.1 1=NA 7=4.1 1=NA 7=4.1 1=NA 32=5.1 24=4.1",
    "4=5.1 2=4.1 19=5.1 1=5.2 10=6.1 7=7.0 2=9.0 5=10.0 5=11.0 1=12.0 3=13.0 11=14.0 34=NA",
    "26=3.0 1=NA 89=3.0 12=NA 214=3.0 26=NA 12=3.0 4=15.1 56=1.1 3=3.0 3=3.2 1=3.0 1=1.1 1=NA",
    "84=1.1 2=3.2 2=NA 6=1.1 2=3.2 94=1.1 1=3.2 5=NA 40=1.1 1=5.1 1=10.0 1=11.0 1=NA 94=1.1 1=NA",
    "16=1.1 24=3.0 3=6.0 5=13.0 16=4.1 20=5.1 2=16.0 9=NA 1=15.1 16=3.2 29=1.1 2=4.0 1=NA 36=1.1",
    "12=5.2 1=4.0 15=3.2 28=1.1 2=4.0 1=4.1 50=1.1 15=3.2 12=1.1 4=4.0 47=1.1 1=12.1 119=1.1",
    "4=4.0 99=1.1 2=4.0 31=1.1 1=4.0 6582=3.0 10=13.0 64=4.0 20902=1.1 22=4.1 8=5.1 8=5.2 1=6.1",
    "9=8.0 21=10.0 5=11.0 13=13.0 3=14.0 1165=3.0 3=NA 18=3.0 2=3.2 16=3.0 1=3.2 12=3.0 1=3.2",
    "3=3.0 1=3.2 1=3.0 9=NA 48=5.2 300=5.1 20=NA 32=5.1 2=6.0 18=5.1 8=6.1 28=5.1 6=7.0 1=8.0",
    "1=6.1 88=5.2 8=NA 23=4.1 4=5.0 5=5.1 2=5.0 107=5.1 2=6.0 1=8.0 2=6.0 2=6.1 12=7.0 10=6.0",
    "1=6.1 3=7.0 1=9.0 1=11.0 2=7.0 6=8.0 2=11.0 6=12.0 2=14.0 5=12.0 4=13.0 3=16.0 2=NA 2=14.0",
    "1=NA 1=14.0 1=NA 5=14.0 3=16.0 21=NA 3=14.0 2=13.0 1=7.0 2=6.1 1=6.0 5=5.1 44=4.1 1=13.0",
    "3=NA 10=5.2 6=NA 56=5.0 8=NA 69=5.1 1=9.0 8=NA 12=5.1 6=NA 28=5.2 2=8.0 2=11.0 84=5.1 11=NA",
    "1=5.1 29=5.2 3=NA 78=5.2 1=NA 11=5.2 4=NA 2=5.2 31=7.0 1=NA 55=5.1 9=NA 14=5.1 2=NA 10=5.1",
    "2=NA 4=5.1 28=5.2 4=7.0 67=5.2 24=NA 5=5.2 23=6.1 10=NA 6=6.0 2=NA 6=6.0 2=NA 6=6.0 9=NA",
    "7=6.0 1=NA 7=6.0 1=NA 48=7.0 4=8.0 2=7.0 2=12.0 4=13.0 4=NA 80=8.0 46=5.2 2=NA 10=5.2 6=NA",
    "11172=2.0 12=NA 23=5.2 4=NA 49=5.2 4=NA 2048=2.0 6702=1.1 2=6.1 59=3.2 3=5.2 2=NA 106=4.1",
    "38=NA 7=1.1 12=NA 5=1.1 5=NA 1=3.0 25=1.1 1=NA 5=1.1 1=NA 1=1.1 1=NA 2=1.1 1=NA 2=1.1 1=NA",
    "108=1.1 16=6.0 1=14.0 16=NA 365=1.1 16=14.0 64=1.1 2=NA 54=1.1 7=NA 1=14.0 32=3.1 12=1.1",
    "1=3.2 1=4.0 2=14.0 16=3.2 10=4.1 6=NA 4=1.1 3=5.1 7=7.0 2=8.0 21=1.1 2=3.2 2=4.0 10=1.1",
    "1=NA 19=1.1 1=NA 4=1.1 4=NA 3=1.1 1=3.2 1=1.1 1=NA 135=1.1 2=NA 1=1.1 1=NA 94=1.1 2=3.2",
    "94=1.1 3=NA 6=1.1 2=NA 6=1.1 2=NA 6=1.1 2=NA 3=1.1 3=NA 7=1.1 1=NA 7=1.1 10=NA 3=3.0 1=2.1",
    "3=1.1 12=4.0 1=NA 26=4.0 1=NA 19=4.0 1=NA 2=4.0 1=NA 15=4.0 2=NA 14=4.0 34=NA 123=4.0 5=NA",
    "3=4.0 4=NA 45=4.0 3=NA 9=4.0 75=4.1 2=7.0 2=9.0 1=NA 12=5.1 1=13.0 3=NA 1=7.0 47=NA 46=5.1",
    "130=NA 29=5.1 3=NA 49=5.1 15=NA 28=7.0 4=NA 31=3.1 1=7.0 4=3.1 9=NA 3=10.0 27=3.1 5=NA",
    "43=7.0 5=NA 30=4.0 1=NA 1=4.0 36=4.1 4=NA 14=4.1 42=NA 38=3.1 2=4.0 38=3.1 80=4.0 2=NA",
    "10=4.0 6=NA 36=9.0 4=NA 36=9.0 4=NA 40=7.0 8=NA 52=7.0 11=NA 1=7.0 11=14.0 1=NA 15=14.0",
    "1=NA 7=14.0 1=NA 2=14.0 1=NA 11=14.0 1=NA 15=14.0 1=NA 7=14.0 1=NA 2=14.0 3=NA 52=16.0",
    "12=NA 311=7.0 9=NA 22=7.0 10=NA 8=7.0 24=NA 6=14.0 1=NA 42=14.0 1=NA 9=14.0 69=NA 6=4.0",
    "2=NA 1=4.0 1=NA 44=4.0 1=NA 2=4.0 3=NA 1=4.0 2=NA 1=4.0 22=5.2 1=NA 9=5.2 63=7.0 8=NA 9=7.0",
    "48=NA 19=8.0 1=NA 2=8.0 5=NA 5=8.0 26=5.0 2=5.2 3=NA 1=5.0 26=5.1 5=NA 1=5.1 64=NA 56=6.1",
    "4=NA 2=8.0 2=6.1 16=8.0 2=NA 46=8.0 4=4.1 1=NA 2=4.1 5=NA 8=4.1 1=NA 3=4.1 1=NA 27=4.1",
    "2=11.0 2=NA 3=4.1 4=NA 9=4.1 1=11.0 7=NA 9=4.1 7=NA 32=5.2 32=7.0 32=NA 39=7.0 4=NA 12=7.0",
    "9=NA 54=5.2 3=NA 29=5.2 2=NA 27=5.2 5=NA 8=5.2 18=7.0 7=NA 4=7.0 12=NA 7=7.0 80=NA 73=5.2",
    "55=NA 51=8.0 13=NA 51=8.0 7=NA 6=8.0 40=11.0 8=NA 10=11.0 6=NA 38=16.0 3=NA 29=16.0 8=NA",
    "2=16.0 208=NA 31=5.2 1=NA 42=13.0 1=NA 3=13.0 2=NA 2=13.0 16=NA 3=16.0 55=NA 1=16.0 3=15.0",
    "40=11.0 8=NA 42=11.0 22=NA 26=14.0 38=NA 28=13.0 20=NA 23=12.0 9=NA 78=6.0 4=NA 30=6.0",
    "6=14.0 9=NA 1=7.0 66=5.2 1=14.0 10=NA 1=11.0 2=NA 25=6.1 7=NA 10=6.1 6=NA 53=6.1 1=NA",
    "14=6.1 3=11.0 1=13.0 8=NA 39=7.0 9=NA 73=6.1 4=8.0 1=7.0 2=13.0 10=6.1 1=7.0 5=8.0 1=NA",
    "20=7.0 11=NA 18=7.0 1=NA 43=7.0 1=9.0 3=15.0 62=NA 7=8.0 1=NA 1=8.0 1=NA 4=8.0 1=NA 15=8.0",
    "1=NA 11=8.0 6=NA 59=7.0 5=NA 10=7.0 6=NA 1=8.0 3=7.0 1=NA 8=7.0 2=NA 2=7.0 2=NA 22=7.0 1=NA",
    "7=7.0 1=NA 2=7.0 1=NA 5=7.0 1=NA 1=11.0 9=7.0 2=NA 2=7.0 2=NA 3=7.0 2=NA 1=8.0 6=NA 1=7.0",
    "5=NA 7=7.0 2=NA 7=7.0 3=NA 5=7.0 11=NA 10=16.0 1=NA 1=16.0 2=NA 1=16.0 1=NA 38=16.0 1=NA",
    "10=16.0 1=NA 1=16.0 2=NA 1=16.0 1=NA 4=16.0 1=NA 10=16.0 1=NA 2=16.0 8=NA 2=16.0 29=NA",
    "90=9.0 1=13.0 1=9.0 1=NA 1=9.0 1=11.0 1=12.0 2=13.0 30=NA 72=7.0 8=NA 10=7.0 166=NA 54=7.0",
    "2=NA 18=7.0 20=8.0 34=NA 69=7.0 11=NA 10=7.0 6=NA 13=9.0 19=NA 56=6.1 1=12.0 1=14.0 6=NA",
    "10=6.1 6=NA 20=16.0 28=NA 26=8.0 1=11.0 2=NA 15=8.0 4=NA 16=8.0 7=14.0 185=NA 60=11.0",
    "100=NA 83=7.0 12=NA 1=7.0 7=13.0 2=NA 1=13.0 2=NA 8=13.0 1=NA 2=13.0 1=NA 30=13.0 1=NA",
    "2=13.0 2=NA 12=13.0 9=NA 10=13.0 70=NA 8=12.0 2=NA 46=12.0 2=NA 11=12.0 27=NA 72=10.0 8=NA",
    "52=10.0 2=12.0 23=10.0 1=11.0 5=10.0 13=NA 16=14.0 57=7.0 7=NA 10=15.0 182=NA 34=16.0 14=NA",
    "10=16.0 6=NA 9=9.0 1=NA 45=9.0 1=NA 14=9.0 10=NA 29=9.0 3=NA 32=9.0 2=NA 22=9.0 1=NA 14=9.0",
    "73=NA 7=10.0 1=NA 2=10.0 1=NA 44=10.0 3=NA 1=10.0 1=NA 2=10.0 1=NA 9=10.0 8=NA 10=10.0 6=NA",
    "6=11.0 1=NA 2=11.0 1=NA 37=11.0 1=NA 2=11.0 1=NA 6=11.0 7=NA 10=11.0 310=NA 25=11.0 7=NA",
    "17=15.0 1=NA 41=15.0 3=NA 28=15.0 1=16.0 85=NA 1=13.0 15=NA 50=12.0 13=NA 1=12.0 879=5.0",
    "42=7.0 1=8.0 102=NA 99=5.0 12=7.0 1=NA 4=5.0 1=7.0 11=NA 196=8.0 2636=NA 99=14.0 13=NA",
    "1071=5.2 1=15.0 9=12.0 29=15.0 10=NA 3995=16.0 5=NA 583=8.0 6841=NA 58=16.0 1734=NA 569=6.0",
    "7=NA 31=7.0 1=NA 10=7.0 4=NA 2=7.0 79=14.0 1=NA 10=14.0 6=NA 30=7.0 2=NA 6=7.0 10=NA 70=7.0",
    "10=NA 10=7.0 1=NA 7=7.0 1=NA 21=7.0 5=NA 19=7.0 432=NA 58=16.0 198=NA 91=11.0 101=NA 69=6.1",
    "6=12.0 4=NA 1=12.0 47=6.1 9=12.0 7=NA 17=6.1 64=NA 1=9.0 1=10.0 2=12.0 1=13.0 11=NA 2=13.0",
    "14=NA 6125=9.0 5=11.0 6=12.0 8=NA 755=9.0 483=13.0 41=NA 1=16.0 9=13.0 8935=NA 4=14.0 1=NA",
    "7=14.0 1=NA 2=14.0 1=NA 2=6.0 285=10.0 4=14.0 15=NA 1=15.0 29=NA 3=12.0 2=NA 1=15.0 14=NA",
    "4=12.0 8=NA 396=10.0 2308=NA 107=7.0 5=NA 13=7.0 3=NA 9=7.0 7=NA 10=7.0 2=NA 8=7.0 3932=NA",
    "250=16.0 6=NA 436=16.0 76=NA 46=14.0 2=NA 23=14.0 9=NA 116=14.0 60=NA 246=3.1 10=NA 39=3.1",
    "2=NA 1=5.1 180=3.1 11=8.0 2=14.0 21=NA 70=4.1 122=NA 20=15.0 12=NA 20=11.0 12=NA 87=4.0",
    "9=NA 18=5.0 7=11.0 135=NA 85=3.1 1=NA 71=3.1 1=NA 2=3.1 2=NA 1=3.1 2=NA 2=3.1 2=NA 4=3.1",
    "1=NA 12=3.1 1=NA 1=3.1 1=NA 4=3.1 1=4.0 2=3.1 1=NA 65=3.1 1=NA 4=3.1 2=NA 8=3.1 1=NA 7=3.1",
    "1=NA 28=3.1 1=NA 4=3.1 1=NA 5=3.1 1=NA 1=3.1 3=NA 7=3.1 1=NA 338=3.1 2=4.1 2=NA 290=3.1",
    "2=5.0 2=NA 50=3.1 652=8.0 15=NA 5=8.0 1=NA 15=8.0 1104=NA 31=14.0 6=NA 6=15.0 213=NA 7=9.0",
    "1=NA 17=9.0 2=NA 7=9.0 1=NA 2=9.0 1=NA 5=9.0 5=NA 62=15.0 33=NA 1=15.0 112=NA 45=12.0 3=NA",
    "14=12.0 2=NA 10=12.0 4=NA 2=12.0 320=NA 31=14.0 17=NA 58=12.0 5=NA 1=12.0 464=NA 42=15.0",
    "214=NA 43=16.0 4=NA 1=16.0 480=NA 7=14.0 1=NA 4=14.0 1=NA 2=14.0 1=NA 15=14.0 1=NA 197=7.0",
    "2=NA 16=7.0 41=NA 75=9.0 1=12.0 4=NA 10=9.0 4=NA 2=9.0 785=NA 68=11.0 76=NA 61=12.0 194=NA",
    "4=6.1 1=NA 27=6.1 1=NA 2=6.1 1=NA 1=6.1 2=NA 1=6.1 1=NA 10=6.1 1=NA 4=6.1 1=NA 1=6.1 1=NA",
    "1=6.1 6=NA 1=6.1 4=NA 1=6.1 1=NA 1=6.1 1=NA 1=6.1 1=NA 3=6.1 1=NA 2=6.1 1=NA 1=6.1 2=NA",
    "1=6.1 1=NA 1=6.1 1=NA 1=6.1 1=NA 1=6.1 1=NA 1=6.1 1=NA 2=6.1 1=NA 1=6.1 2=NA 4=6.1 1=NA",
    "7=6.1 1=NA 4=6.1 1=NA 4=6.1 1=NA 1=6.1 1=NA 10=6.1 1=NA 17=6.1 5=NA 3=6.1 1=NA 5=6.1 1=NA",
    "17=6.1 52=NA 2=6.1 270=NA 44=5.1 4=NA 100=5.1 12=NA 15=6.0 2=NA 14=6.0 1=7.0 1=NA 15=6.0",
    "1=NA 15=6.0 22=7.0 10=NA 11=5.2 2=7.0 3=13.0 31=5.2 1=11.0 1=6.0 1=5.2 11=6.0 1=5.2 1=6.0",
    "1=5.2 2=6.0 1=5.2 3=6.0 1=5.2 3=6.0 5=5.2 8=6.0 1=5.2 7=6.0 1=5.2 10=6.0 2=6.1 1=12.0",
    "3=13.0 9=6.0 1=5.2 1=6.0 2=5.2 2=6.0 1=5.2 10=6.0 4=5.2 2=6.0 1=5.2 10=6.0 18=9.0 1=13.0",
    "56=NA 26=6.0 1=5.2 2=6.0 13=NA 34=5.2 9=6.0 1=9.0 4=NA 9=5.2 7=NA 2=6.0 14=NA 6=10.0 154=NA",
    "33=6.0 12=7.0 3=8.0 6=6.0 1=7.0 70=6.0 1=7.0 2=8.0 20=6.0 12=7.0 37=6.0 1=7.0 5=6.0 4=7.0",
    "5=8.0 12=7.0 17=6.0 7=7.0 8=8.0 63=6.0 1=7.0 1=6.0 1=7.0 182=6.0 1=7.0 4=6.0 2=7.0 1=8.0",
    "62=6.0 2=7.0 4=6.1 7=7.0 5=8.0 24=6.0 18=7.0 1=9.0 41=7.0 1=9.0 86=7.0 5=6.0 1=6.1 16=6.0",
    "1=6.1 3=6.0 1=6.1 1=6.0 1=6.1 1=6.0 1=6.1 1=6.0 1=6.1 3=6.0 1=6.1 6=6.0 2=6.1 4=6.0 1=6.1",
    "1=6.0 2=6.1 4=6.0 1=6.1 12=6.0 2=7.0 2=8.0 11=6.0 48=7.0 70=6.0 10=7.0 1=8.0 2=9.0 2=10.0",
    "1=12.0 2=13.0 4=NA 1=15.0 3=14.0 13=7.0 3=NA 4=7.0 3=9.0 2=10.0 1=11.0 1=12.0 2=13.0 3=NA",
    "116=6.0 3=15.0 4=NA 5=15.0 85=7.0 4=11.0 1=15.0 6=NA 12=12.0 4=NA 1=14.0 15=NA 12=7.0 4=NA",
    "56=7.0 8=NA 10=7.0 6=NA 40=7.0 8=NA 30=7.0 2=NA 2=13.0 10=16.0 4=NA 2=16.0 62=NA 12=10.0",
    "1=13.0 3=12.0 9=8.0 6=9.0 1=10.0 8=9.0 8=10.0 1=9.0 2=10.0 12=9.0 1=12.0 12=9.0 1=10.0",
    "3=11.0 15=9.0 13=10.0 5=11.0 1=12.0 1=13.0 4=11.0 2=13.0 1=14.0 1=11.0 1=12.0 4=11.0 5=8.0",
    "13=9.0 6=10.0 11=11.0 2=13.0 6=12.0 3=13.0 2=12.0 10=11.0 6=12.0 1=8.0 2=11.0 8=12.0 1=13.0",
    "1=14.0 3=12.0 23=10.0 25=11.0 84=12.0 12=NA 14=11.0 2=NA 4=12.0 1=13.0 3=15.0 3=12.0 2=14.0",
    "3=NA 3=12.0 4=13.0 2=15.0 1=16.0 5=NA 1=16.0 6=12.0 19=13.0 4=14.0 3=15.0 7=13.0 4=14.0",
    "3=15.0 1=16.0 1=15.0 3=13.0 3=14.0 1=16.0 7=NA 2=15.0 7=13.0 3=14.0 2=15.0 1=16.0 2=NA",
    "1=16.0 8=14.0 1=15.0 1=16.0 6=NA 7=14.0 2=15.0 7=NA 147=13.0 1=NA 55=13.0 37=16.0 10=13.0",
    "1028=NA 2=2.0 42711=3.1 7=13.0 2=14.0 32=NA 4149=5.2 4=14.0 1=15.0 6=NA 222=6.0 2=NA",
    "5762=8.0 14=NA 7473=10.0 15=NA 622=15.1 2466=NA 542=3.1 1504=NA 2=2.0 4939=13.0 5=NA",
    "4192=15.0 56398=NA 2=2.0 65534=NA 2=2.0 65534=NA 2=2.0 65534=NA 2=2.0 65534=NA 2=2.0",
    "65534=NA 2=2.0 65534=NA 2=2.0 65534=NA 2=2.0 65534=NA 2=2.0 65534=NA 2=2.0 65534=NA 2=2.0",
    "1=NA 1=3.1 30=NA 96=3.1 128=NA 240=4.0 65038=NA 131074=2.0"])

/-- The versions, in order. -/
def versions : List String :=
  ["1.1", "2.0", "2.1", "3.0", "3.1", "3.2", "4.0", "4.1", "5.0", "5.1", "5.2", "6.0", "6.1", "6.2",
    "6.3", "7.0", "8.0", "9.0", "10.0", "11.0", "12.0", "12.1", "13.0", "14.0", "15.0", "15.1", "16.0"]

/-- Whether a character was assigned in the given version or before it. -/
def assignedBy (version : String) (c : Char) : Bool :=
  ((versions.takeWhile (· ≠ version)) ++ [version]).contains (ageRuns.value c)

end TreeQuery.Regex.Unicode
