import TreeQuery.Regex.Unicode.Runs

/-!
# Scripts

The script of each character in Unicode 16.0, by its four-letter code, and the scripts that a
character is used with where these differ from its own. `Zzzz` marks code points without a script.
-/

namespace TreeQuery.Regex.Unicode

/-- The scripts of all code points. -/
def scriptRuns : Runs := Runs.ofText
  (" ".intercalate [
    "65=Zyyy 26=Latn 6=Zyyy 26=Latn 47=Zyyy 1=Latn 15=Zyyy 1=Latn 5=Zyyy 23=Latn 1=Zyyy 31=Latn",
    "1=Zyyy 449=Latn 39=Zyyy 5=Latn 5=Zyyy 2=Bopo 20=Zyyy 112=Zinh 4=Grek 1=Zyyy 3=Grek 2=Zzzz",
    "4=Grek 1=Zyyy 1=Grek 4=Zzzz 1=Grek 1=Zyyy 1=Grek 1=Zyyy 3=Grek 1=Zzzz 1=Grek 1=Zzzz 20=Grek",
    "1=Zzzz 63=Grek 14=Copt 16=Grek 133=Cyrl 2=Zinh 169=Cyrl 1=Zzzz 38=Armn 2=Zzzz 50=Armn",
    "2=Zzzz 3=Armn 1=Zzzz 55=Hebr 8=Zzzz 27=Hebr 4=Zzzz 6=Hebr 11=Zzzz 5=Arab 1=Zyyy 6=Arab",
    "1=Zyyy 14=Arab 1=Zyyy 3=Arab 1=Zyyy 32=Arab 1=Zyyy 10=Arab 11=Zinh 26=Arab 1=Zinh 108=Arab",
    "1=Zyyy 34=Arab 14=Syrc 1=Zzzz 60=Syrc 2=Zzzz 3=Syrc 48=Arab 50=Thaa 14=Zzzz 59=Nkoo 2=Zzzz",
    "3=Nkoo 46=Samr 2=Zzzz 15=Samr 1=Zzzz 28=Mand 2=Zzzz 1=Mand 1=Zzzz 11=Syrc 5=Zzzz 31=Arab",
    "1=Zzzz 2=Arab 5=Zzzz 75=Arab 1=Zyyy 29=Arab 81=Deva 4=Zinh 15=Deva 2=Zyyy 26=Deva 4=Beng",
    "1=Zzzz 8=Beng 2=Zzzz 2=Beng 2=Zzzz 22=Beng 1=Zzzz 7=Beng 1=Zzzz 1=Beng 3=Zzzz 4=Beng 2=Zzzz",
    "9=Beng 2=Zzzz 2=Beng 2=Zzzz 4=Beng 8=Zzzz 1=Beng 4=Zzzz 2=Beng 1=Zzzz 5=Beng 2=Zzzz 25=Beng",
    "2=Zzzz 3=Guru 1=Zzzz 6=Guru 4=Zzzz 2=Guru 2=Zzzz 22=Guru 1=Zzzz 7=Guru 1=Zzzz 2=Guru 1=Zzzz",
    "2=Guru 1=Zzzz 2=Guru 2=Zzzz 1=Guru 1=Zzzz 5=Guru 4=Zzzz 2=Guru 2=Zzzz 3=Guru 3=Zzzz 1=Guru",
    "7=Zzzz 4=Guru 1=Zzzz 1=Guru 7=Zzzz 17=Guru 10=Zzzz 3=Gujr 1=Zzzz 9=Gujr 1=Zzzz 3=Gujr",
    "1=Zzzz 22=Gujr 1=Zzzz 7=Gujr 1=Zzzz 2=Gujr 1=Zzzz 5=Gujr 2=Zzzz 10=Gujr 1=Zzzz 3=Gujr",
    "1=Zzzz 3=Gujr 2=Zzzz 1=Gujr 15=Zzzz 4=Gujr 2=Zzzz 12=Gujr 7=Zzzz 7=Gujr 1=Zzzz 3=Orya",
    "1=Zzzz 8=Orya 2=Zzzz 2=Orya 2=Zzzz 22=Orya 1=Zzzz 7=Orya 1=Zzzz 2=Orya 1=Zzzz 5=Orya 2=Zzzz",
    "9=Orya 2=Zzzz 2=Orya 2=Zzzz 3=Orya 7=Zzzz 3=Orya 4=Zzzz 2=Orya 1=Zzzz 5=Orya 2=Zzzz 18=Orya",
    "10=Zzzz 2=Taml 1=Zzzz 6=Taml 3=Zzzz 3=Taml 1=Zzzz 4=Taml 3=Zzzz 2=Taml 1=Zzzz 1=Taml 1=Zzzz",
    "2=Taml 3=Zzzz 2=Taml 3=Zzzz 3=Taml 3=Zzzz 12=Taml 4=Zzzz 5=Taml 3=Zzzz 3=Taml 1=Zzzz 4=Taml",
    "2=Zzzz 1=Taml 6=Zzzz 1=Taml 14=Zzzz 21=Taml 5=Zzzz 13=Telu 1=Zzzz 3=Telu 1=Zzzz 23=Telu",
    "1=Zzzz 16=Telu 2=Zzzz 9=Telu 1=Zzzz 3=Telu 1=Zzzz 4=Telu 7=Zzzz 2=Telu 1=Zzzz 3=Telu 2=Zzzz",
    "1=Telu 2=Zzzz 4=Telu 2=Zzzz 10=Telu 7=Zzzz 9=Telu 13=Knda 1=Zzzz 3=Knda 1=Zzzz 23=Knda",
    "1=Zzzz 10=Knda 1=Zzzz 5=Knda 2=Zzzz 9=Knda 1=Zzzz 3=Knda 1=Zzzz 4=Knda 7=Zzzz 2=Knda 6=Zzzz",
    "2=Knda 1=Zzzz 4=Knda 2=Zzzz 10=Knda 1=Zzzz 3=Knda 12=Zzzz 13=Mlym 1=Zzzz 3=Mlym 1=Zzzz",
    "51=Mlym 1=Zzzz 3=Mlym 1=Zzzz 6=Mlym 4=Zzzz 16=Mlym 2=Zzzz 26=Mlym 1=Zzzz 3=Sinh 1=Zzzz",
    "18=Sinh 3=Zzzz 24=Sinh 1=Zzzz 9=Sinh 1=Zzzz 1=Sinh 2=Zzzz 7=Sinh 3=Zzzz 1=Sinh 4=Zzzz",
    "6=Sinh 1=Zzzz 1=Sinh 1=Zzzz 8=Sinh 6=Zzzz 10=Sinh 2=Zzzz 3=Sinh 12=Zzzz 58=Thai 4=Zzzz",
    "1=Zyyy 28=Thai 37=Zzzz 2=Laoo 1=Zzzz 1=Laoo 1=Zzzz 5=Laoo 1=Zzzz 24=Laoo 1=Zzzz 1=Laoo",
    "1=Zzzz 23=Laoo 2=Zzzz 5=Laoo 1=Zzzz 1=Laoo 1=Zzzz 7=Laoo 1=Zzzz 10=Laoo 2=Zzzz 4=Laoo",
    "32=Zzzz 72=Tibt 1=Zzzz 36=Tibt 4=Zzzz 39=Tibt 1=Zzzz 36=Tibt 1=Zzzz 15=Tibt 1=Zzzz 7=Tibt",
    "4=Zyyy 2=Tibt 37=Zzzz 160=Mymr 38=Geor 1=Zzzz 1=Geor 5=Zzzz 1=Geor 2=Zzzz 43=Geor 1=Zyyy",
    "4=Geor 256=Hang 73=Ethi 1=Zzzz 4=Ethi 2=Zzzz 7=Ethi 1=Zzzz 1=Ethi 1=Zzzz 4=Ethi 2=Zzzz",
    "41=Ethi 1=Zzzz 4=Ethi 2=Zzzz 33=Ethi 1=Zzzz 4=Ethi 2=Zzzz 7=Ethi 1=Zzzz 1=Ethi 1=Zzzz",
    "4=Ethi 2=Zzzz 15=Ethi 1=Zzzz 57=Ethi 1=Zzzz 4=Ethi 2=Zzzz 67=Ethi 2=Zzzz 32=Ethi 3=Zzzz",
    "26=Ethi 6=Zzzz 86=Cher 2=Zzzz 6=Cher 2=Zzzz 640=Cans 29=Ogam 3=Zzzz 75=Runr 3=Zyyy 11=Runr",
    "7=Zzzz 22=Tglg 9=Zzzz 1=Tglg 21=Hano 2=Zyyy 9=Zzzz 20=Buhd 12=Zzzz 13=Tagb 1=Zzzz 3=Tagb",
    "1=Zzzz 2=Tagb 12=Zzzz 94=Khmr 2=Zzzz 10=Khmr 6=Zzzz 10=Khmr 6=Zzzz 2=Mong 2=Zyyy 1=Mong",
    "1=Zyyy 20=Mong 6=Zzzz 89=Mong 7=Zzzz 43=Mong 5=Zzzz 70=Cans 10=Zzzz 31=Limb 1=Zzzz 12=Limb",
    "4=Zzzz 12=Limb 4=Zzzz 1=Limb 3=Zzzz 12=Limb 30=Tale 2=Zzzz 5=Tale 11=Zzzz 44=Talu 4=Zzzz",
    "26=Talu 6=Zzzz 11=Talu 3=Zzzz 2=Talu 32=Khmr 28=Bugi 2=Zzzz 2=Bugi 63=Lana 1=Zzzz 29=Lana",
    "2=Zzzz 11=Lana 6=Zzzz 10=Lana 6=Zzzz 14=Lana 2=Zzzz 31=Zinh 49=Zzzz 77=Bali 1=Zzzz 50=Bali",
    "64=Sund 52=Batk 8=Zzzz 4=Batk 56=Lepc 3=Zzzz 15=Lepc 3=Zzzz 3=Lepc 48=Olck 11=Cyrl 5=Zzzz",
    "43=Geor 2=Zzzz 3=Geor 8=Sund 8=Zzzz 3=Zinh 1=Zyyy 13=Zinh 1=Zyyy 7=Zinh 4=Zyyy 1=Zinh",
    "6=Zyyy 1=Zinh 3=Zyyy 2=Zinh 1=Zyyy 5=Zzzz 38=Latn 5=Grek 1=Cyrl 49=Latn 5=Grek 4=Latn",
    "5=Grek 13=Latn 1=Cyrl 70=Latn 1=Grek 64=Zinh 256=Latn 22=Grek 2=Zzzz 6=Grek 2=Zzzz 38=Grek",
    "2=Zzzz 6=Grek 2=Zzzz 8=Grek 1=Zzzz 1=Grek 1=Zzzz 1=Grek 1=Zzzz 1=Grek 1=Zzzz 31=Grek 2=Zzzz",
    "53=Grek 1=Zzzz 15=Grek 1=Zzzz 14=Grek 2=Zzzz 6=Grek 1=Zzzz 19=Grek 2=Zzzz 3=Grek 1=Zzzz",
    "9=Grek 1=Zzzz 12=Zyyy 2=Zinh 87=Zyyy 1=Zzzz 11=Zyyy 1=Latn 2=Zzzz 11=Zyyy 1=Latn 15=Zyyy",
    "1=Zzzz 13=Latn 3=Zzzz 33=Zyyy 15=Zzzz 33=Zinh 15=Zzzz 38=Zyyy 1=Grek 3=Zyyy 2=Latn 6=Zyyy",
    "1=Latn 27=Zyyy 1=Latn 17=Zyyy 41=Latn 3=Zyyy 4=Zzzz 666=Zyyy 22=Zzzz 11=Zyyy 21=Zzzz",
    "928=Zyyy 256=Brai 628=Zyyy 2=Zzzz 32=Zyyy 1=Zzzz 105=Zyyy 96=Glag 32=Latn 116=Copt 5=Zzzz",
    "7=Copt 38=Geor 1=Zzzz 1=Geor 5=Zzzz 1=Geor 2=Zzzz 56=Tfng 7=Zzzz 2=Tfng 14=Zzzz 1=Tfng",
    "23=Ethi 9=Zzzz 7=Ethi 1=Zzzz 7=Ethi 1=Zzzz 7=Ethi 1=Zzzz 7=Ethi 1=Zzzz 7=Ethi 1=Zzzz 7=Ethi",
    "1=Zzzz 7=Ethi 1=Zzzz 7=Ethi 1=Zzzz 32=Cyrl 94=Zyyy 34=Zzzz 26=Hani 1=Zzzz 89=Hani 12=Zzzz",
    "214=Hani 26=Zzzz 21=Zyyy 1=Hani 1=Zyyy 1=Hani 25=Zyyy 9=Hani 4=Zinh 2=Hang 8=Zyyy 4=Hani",
    "4=Zyyy 1=Zzzz 86=Hira 2=Zzzz 2=Zinh 2=Zyyy 3=Hira 1=Zyyy 90=Kana 2=Zyyy 3=Kana 5=Zzzz",
    "43=Bopo 1=Zzzz 94=Hang 1=Zzzz 16=Zyyy 32=Bopo 38=Zyyy 9=Zzzz 1=Zyyy 16=Kana 31=Hang 1=Zzzz",
    "64=Zyyy 31=Hang 81=Zyyy 47=Kana 1=Zyyy 88=Kana 168=Zyyy 6592=Hani 64=Zyyy 20992=Hani",
    "1165=Yiii 3=Zzzz 55=Yiii 9=Zzzz 48=Lisu 300=Vaii 20=Zzzz 96=Cyrl 88=Bamu 8=Zzzz 34=Zyyy",
    "102=Latn 3=Zyyy 67=Latn 2=Zzzz 2=Latn 1=Zzzz 1=Latn 1=Zzzz 8=Latn 21=Zzzz 14=Latn 45=Sylo",
    "3=Zzzz 10=Zyyy 6=Zzzz 56=Phag 8=Zzzz 70=Saur 8=Zzzz 12=Saur 6=Zzzz 32=Deva 46=Kali 1=Zyyy",
    "1=Kali 36=Rjng 11=Zzzz 1=Rjng 29=Hang 3=Zzzz 78=Java 1=Zzzz 1=Zyyy 10=Java 4=Zzzz 2=Java",
    "31=Mymr 1=Zzzz 55=Cham 9=Zzzz 14=Cham 2=Zzzz 10=Cham 2=Zzzz 4=Cham 32=Mymr 67=Tavt 24=Zzzz",
    "5=Tavt 23=Mtei 10=Zzzz 6=Ethi 2=Zzzz 6=Ethi 2=Zzzz 6=Ethi 9=Zzzz 7=Ethi 1=Zzzz 7=Ethi",
    "1=Zzzz 43=Latn 1=Zyyy 9=Latn 1=Grek 4=Latn 2=Zyyy 4=Zzzz 80=Cher 46=Mtei 2=Zzzz 10=Mtei",
    "6=Zzzz 11172=Hang 12=Zzzz 23=Hang 4=Zzzz 49=Hang 8452=Zzzz 366=Hani 2=Zzzz 106=Hani 38=Zzzz",
    "7=Latn 12=Zzzz 5=Armn 5=Zzzz 26=Hebr 1=Zzzz 5=Hebr 1=Zzzz 1=Hebr 1=Zzzz 2=Hebr 1=Zzzz",
    "2=Hebr 1=Zzzz 10=Hebr 115=Arab 16=Zzzz 363=Arab 2=Zyyy 80=Arab 2=Zzzz 54=Arab 7=Zzzz 1=Arab",
    "32=Zzzz 16=Arab 16=Zinh 10=Zyyy 6=Zzzz 14=Zinh 2=Cyrl 35=Zyyy 1=Zzzz 19=Zyyy 1=Zzzz 4=Zyyy",
    "4=Zzzz 5=Arab 1=Zzzz 135=Arab 2=Zzzz 1=Zyyy 1=Zzzz 32=Zyyy 26=Latn 6=Zyyy 26=Latn 11=Zyyy",
    "10=Kana 1=Zyyy 45=Kana 2=Zyyy 31=Hang 3=Zzzz 6=Hang 2=Zzzz 6=Hang 2=Zzzz 6=Hang 2=Zzzz",
    "3=Hang 3=Zzzz 7=Zyyy 1=Zzzz 7=Zyyy 10=Zzzz 5=Zyyy 2=Zzzz 12=Linb 1=Zzzz 26=Linb 1=Zzzz",
    "19=Linb 1=Zzzz 2=Linb 1=Zzzz 15=Linb 2=Zzzz 14=Linb 34=Zzzz 123=Linb 5=Zzzz 3=Zyyy 4=Zzzz",
    "45=Zyyy 3=Zzzz 9=Zyyy 79=Grek 1=Zzzz 13=Zyyy 3=Zzzz 1=Grek 47=Zzzz 45=Zyyy 1=Zinh 130=Zzzz",
    "29=Lyci 3=Zzzz 49=Cari 15=Zzzz 1=Zinh 27=Zyyy 4=Zzzz 36=Ital 9=Zzzz 3=Ital 27=Goth 5=Zzzz",
    "43=Perm 5=Zzzz 30=Ugar 1=Zzzz 1=Ugar 36=Xpeo 4=Zzzz 14=Xpeo 42=Zzzz 80=Dsrt 48=Shaw 30=Osma",
    "2=Zzzz 10=Osma 6=Zzzz 36=Osge 4=Zzzz 36=Osge 4=Zzzz 40=Elba 8=Zzzz 52=Aghb 11=Zzzz 1=Aghb",
    "11=Vith 1=Zzzz 15=Vith 1=Zzzz 7=Vith 1=Zzzz 2=Vith 1=Zzzz 11=Vith 1=Zzzz 15=Vith 1=Zzzz",
    "7=Vith 1=Zzzz 2=Vith 3=Zzzz 52=Todr 12=Zzzz 311=Lina 9=Zzzz 22=Lina 10=Zzzz 8=Lina 24=Zzzz",
    "6=Latn 1=Zzzz 42=Latn 1=Zzzz 9=Latn 69=Zzzz 6=Cprt 2=Zzzz 1=Cprt 1=Zzzz 44=Cprt 1=Zzzz",
    "2=Cprt 3=Zzzz 1=Cprt 2=Zzzz 1=Cprt 22=Armi 1=Zzzz 9=Armi 32=Palm 31=Nbat 8=Zzzz 9=Nbat",
    "48=Zzzz 19=Hatr 1=Zzzz 2=Hatr 5=Zzzz 5=Hatr 28=Phnx 3=Zzzz 1=Phnx 26=Lydi 5=Zzzz 1=Lydi",
    "64=Zzzz 32=Mero 24=Merc 4=Zzzz 20=Merc 2=Zzzz 46=Merc 4=Khar 1=Zzzz 2=Khar 5=Zzzz 8=Khar",
    "1=Zzzz 3=Khar 1=Zzzz 29=Khar 2=Zzzz 3=Khar 4=Zzzz 10=Khar 7=Zzzz 9=Khar 7=Zzzz 32=Sarb",
    "32=Narb 32=Zzzz 39=Mani 4=Zzzz 12=Mani 9=Zzzz 54=Avst 3=Zzzz 7=Avst 22=Prti 2=Zzzz 8=Prti",
    "19=Phli 5=Zzzz 8=Phli 18=Phlp 7=Zzzz 4=Phlp 12=Zzzz 7=Phlp 80=Zzzz 73=Orkh 55=Zzzz 51=Hung",
    "13=Zzzz 51=Hung 7=Zzzz 6=Hung 40=Rohg 8=Zzzz 10=Rohg 6=Zzzz 38=Gara 3=Zzzz 29=Gara 8=Zzzz",
    "2=Gara 208=Zzzz 31=Arab 1=Zzzz 42=Yezi 1=Zzzz 3=Yezi 2=Zzzz 2=Yezi 16=Zzzz 3=Arab 55=Zzzz",
    "4=Arab 40=Sogo 8=Zzzz 42=Sogd 22=Zzzz 26=Ougr 38=Zzzz 28=Chrs 20=Zzzz 23=Elym 9=Zzzz",
    "78=Brah 4=Zzzz 36=Brah 9=Zzzz 1=Brah 67=Kthi 10=Zzzz 1=Kthi 2=Zzzz 25=Sora 7=Zzzz 10=Sora",
    "6=Zzzz 53=Cakm 1=Zzzz 18=Cakm 8=Zzzz 39=Mahj 9=Zzzz 96=Shrd 1=Zzzz 20=Sinh 11=Zzzz 18=Khoj",
    "1=Zzzz 47=Khoj 62=Zzzz 7=Mult 1=Zzzz 1=Mult 1=Zzzz 4=Mult 1=Zzzz 15=Mult 1=Zzzz 11=Mult",
    "6=Zzzz 59=Sind 5=Zzzz 10=Sind 6=Zzzz 4=Gran 1=Zzzz 8=Gran 2=Zzzz 2=Gran 2=Zzzz 22=Gran",
    "1=Zzzz 7=Gran 1=Zzzz 2=Gran 1=Zzzz 5=Gran 1=Zzzz 1=Zinh 9=Gran 2=Zzzz 2=Gran 2=Zzzz 3=Gran",
    "2=Zzzz 1=Gran 6=Zzzz 1=Gran 5=Zzzz 7=Gran 2=Zzzz 7=Gran 3=Zzzz 5=Gran 11=Zzzz 10=Tutg",
    "1=Zzzz 1=Tutg 2=Zzzz 1=Tutg 1=Zzzz 38=Tutg 1=Zzzz 10=Tutg 1=Zzzz 1=Tutg 2=Zzzz 1=Tutg",
    "1=Zzzz 4=Tutg 1=Zzzz 10=Tutg 1=Zzzz 2=Tutg 8=Zzzz 2=Tutg 29=Zzzz 92=Newa 1=Zzzz 5=Newa",
    "30=Zzzz 72=Tirh 8=Zzzz 10=Tirh 166=Zzzz 54=Sidd 2=Zzzz 38=Sidd 34=Zzzz 69=Modi 11=Zzzz",
    "10=Modi 6=Zzzz 13=Mong 19=Zzzz 58=Takr 6=Zzzz 10=Takr 6=Zzzz 20=Mymr 28=Zzzz 27=Ahom 2=Zzzz",
    "15=Ahom 4=Zzzz 23=Ahom 185=Zzzz 60=Dogr 100=Zzzz 83=Wara 12=Zzzz 1=Wara 7=Diak 2=Zzzz",
    "1=Diak 2=Zzzz 8=Diak 1=Zzzz 2=Diak 1=Zzzz 30=Diak 1=Zzzz 2=Diak 2=Zzzz 12=Diak 9=Zzzz",
    "10=Diak 70=Zzzz 8=Nand 2=Zzzz 46=Nand 2=Zzzz 11=Nand 27=Zzzz 72=Zanb 8=Zzzz 83=Soyo 13=Zzzz",
    "16=Cans 57=Pauc 7=Zzzz 10=Deva 182=Zzzz 34=Sunu 14=Zzzz 10=Sunu 6=Zzzz 9=Bhks 1=Zzzz",
    "45=Bhks 1=Zzzz 14=Bhks 10=Zzzz 29=Bhks 3=Zzzz 32=Marc 2=Zzzz 22=Marc 1=Zzzz 14=Marc 73=Zzzz",
    "7=Gonm 1=Zzzz 2=Gonm 1=Zzzz 44=Gonm 3=Zzzz 1=Gonm 1=Zzzz 2=Gonm 1=Zzzz 9=Gonm 8=Zzzz",
    "10=Gonm 6=Zzzz 6=Gong 1=Zzzz 2=Gong 1=Zzzz 37=Gong 1=Zzzz 2=Gong 1=Zzzz 6=Gong 7=Zzzz",
    "10=Gong 310=Zzzz 25=Maka 7=Zzzz 17=Kawi 1=Zzzz 41=Kawi 3=Zzzz 29=Kawi 85=Zzzz 1=Lisu",
    "15=Zzzz 50=Taml 13=Zzzz 1=Taml 922=Xsux 102=Zzzz 111=Xsux 1=Zzzz 5=Xsux 11=Zzzz 196=Xsux",
    "2636=Zzzz 99=Cpmn 13=Zzzz 1110=Egyp 10=Zzzz 3995=Egyp 5=Zzzz 583=Hluw 6841=Zzzz 58=Gukh",
    "1734=Zzzz 569=Bamu 7=Zzzz 31=Mroo 1=Zzzz 10=Mroo 4=Zzzz 2=Mroo 79=Tnsa 1=Zzzz 10=Tnsa",
    "6=Zzzz 30=Bass 2=Zzzz 6=Bass 10=Zzzz 70=Hmng 10=Zzzz 10=Hmng 1=Zzzz 7=Hmng 1=Zzzz 21=Hmng",
    "5=Zzzz 19=Hmng 432=Zzzz 58=Krai 198=Zzzz 91=Medf 101=Zzzz 75=Plrd 4=Zzzz 57=Plrd 7=Zzzz",
    "17=Plrd 64=Zzzz 1=Tang 1=Nshu 2=Hani 1=Kits 11=Zzzz 2=Hani 14=Zzzz 6136=Tang 8=Zzzz",
    "768=Tang 470=Kits 41=Zzzz 1=Kits 9=Tang 8935=Zzzz 4=Kana 1=Zzzz 7=Kana 1=Zzzz 2=Kana 1=Zzzz",
    "1=Kana 287=Hira 3=Kana 15=Zzzz 1=Hira 29=Zzzz 3=Hira 2=Zzzz 1=Kana 14=Zzzz 4=Kana 8=Zzzz",
    "396=Nshu 2308=Zzzz 107=Dupl 5=Zzzz 13=Dupl 3=Zzzz 9=Dupl 7=Zzzz 10=Dupl 2=Zzzz 4=Dupl",
    "4=Zyyy 3932=Zzzz 250=Zyyy 6=Zzzz 436=Zyyy 76=Zzzz 46=Zinh 2=Zzzz 23=Zinh 9=Zzzz 116=Zyyy",
    "60=Zzzz 246=Zyyy 10=Zzzz 39=Zyyy 2=Zzzz 62=Zyyy 3=Zinh 17=Zyyy 8=Zinh 2=Zyyy 7=Zinh 30=Zyyy",
    "4=Zinh 61=Zyyy 21=Zzzz 70=Grek 122=Zzzz 20=Zyyy 12=Zzzz 20=Zyyy 12=Zzzz 87=Zyyy 9=Zzzz",
    "25=Zyyy 135=Zzzz 85=Zyyy 1=Zzzz 71=Zyyy 1=Zzzz 2=Zyyy 2=Zzzz 1=Zyyy 2=Zzzz 2=Zyyy 2=Zzzz",
    "4=Zyyy 1=Zzzz 12=Zyyy 1=Zzzz 1=Zyyy 1=Zzzz 7=Zyyy 1=Zzzz 65=Zyyy 1=Zzzz 4=Zyyy 2=Zzzz",
    "8=Zyyy 1=Zzzz 7=Zyyy 1=Zzzz 28=Zyyy 1=Zzzz 4=Zyyy 1=Zzzz 5=Zyyy 1=Zzzz 1=Zyyy 3=Zzzz 7=Zyyy",
    "1=Zzzz 340=Zyyy 2=Zzzz 292=Zyyy 2=Zzzz 50=Zyyy 652=Sgnw 15=Zzzz 5=Sgnw 1=Zzzz 15=Sgnw",
    "1104=Zzzz 31=Latn 6=Zzzz 6=Latn 213=Zzzz 7=Glag 1=Zzzz 17=Glag 2=Zzzz 7=Glag 1=Zzzz 2=Glag",
    "1=Zzzz 5=Glag 5=Zzzz 62=Cyrl 33=Zzzz 1=Cyrl 112=Zzzz 45=Hmnp 3=Zzzz 14=Hmnp 2=Zzzz 10=Hmnp",
    "4=Zzzz 2=Hmnp 320=Zzzz 31=Toto 17=Zzzz 58=Wcho 5=Zzzz 1=Wcho 464=Zzzz 42=Nagm 214=Zzzz",
    "43=Onao 4=Zzzz 1=Onao 480=Zzzz 7=Ethi 1=Zzzz 4=Ethi 1=Zzzz 2=Ethi 1=Zzzz 15=Ethi 1=Zzzz",
    "197=Mend 2=Zzzz 16=Mend 41=Zzzz 76=Adlm 4=Zzzz 10=Adlm 4=Zzzz 2=Adlm 785=Zzzz 68=Zyyy",
    "76=Zzzz 61=Zyyy 194=Zzzz 4=Arab 1=Zzzz 27=Arab 1=Zzzz 2=Arab 1=Zzzz 1=Arab 2=Zzzz 1=Arab",
    "1=Zzzz 10=Arab 1=Zzzz 4=Arab 1=Zzzz 1=Arab 1=Zzzz 1=Arab 6=Zzzz 1=Arab 4=Zzzz 1=Arab 1=Zzzz",
    "1=Arab 1=Zzzz 1=Arab 1=Zzzz 3=Arab 1=Zzzz 2=Arab 1=Zzzz 1=Arab 2=Zzzz 1=Arab 1=Zzzz 1=Arab",
    "1=Zzzz 1=Arab 1=Zzzz 1=Arab 1=Zzzz 1=Arab 1=Zzzz 2=Arab 1=Zzzz 1=Arab 2=Zzzz 4=Arab 1=Zzzz",
    "7=Arab 1=Zzzz 4=Arab 1=Zzzz 4=Arab 1=Zzzz 1=Arab 1=Zzzz 10=Arab 1=Zzzz 17=Arab 5=Zzzz",
    "3=Arab 1=Zzzz 5=Arab 1=Zzzz 17=Arab 52=Zzzz 2=Arab 270=Zzzz 44=Zyyy 4=Zzzz 100=Zyyy 12=Zzzz",
    "15=Zyyy 2=Zzzz 15=Zyyy 1=Zzzz 15=Zyyy 1=Zzzz 37=Zyyy 10=Zzzz 174=Zyyy 56=Zzzz 26=Zyyy",
    "1=Hira 2=Zyyy 13=Zzzz 44=Zyyy 4=Zzzz 9=Zyyy 7=Zzzz 2=Zyyy 14=Zzzz 6=Zyyy 154=Zzzz 984=Zyyy",
    "4=Zzzz 17=Zyyy 3=Zzzz 13=Zyyy 3=Zzzz 119=Zyyy 4=Zzzz 95=Zyyy 6=Zzzz 12=Zyyy 4=Zzzz 1=Zyyy",
    "15=Zzzz 12=Zyyy 4=Zzzz 56=Zyyy 8=Zzzz 10=Zyyy 6=Zzzz 40=Zyyy 8=Zzzz 30=Zyyy 2=Zzzz 12=Zyyy",
    "4=Zzzz 2=Zyyy 62=Zzzz 340=Zyyy 12=Zzzz 14=Zyyy 2=Zzzz 13=Zyyy 3=Zzzz 10=Zyyy 5=Zzzz 56=Zyyy",
    "7=Zzzz 15=Zyyy 2=Zzzz 11=Zyyy 6=Zzzz 9=Zyyy 7=Zzzz 147=Zyyy 1=Zzzz 102=Zyyy 1030=Zzzz",
    "42720=Hani 32=Zzzz 4154=Hani 6=Zzzz 222=Hani 2=Zzzz 5762=Hani 14=Zzzz 7473=Hani 15=Zzzz",
    "622=Hani 2466=Zzzz 542=Hani 1506=Zzzz 4939=Hani 5=Zzzz 4192=Hani 711761=Zzzz 1=Zyyy 30=Zzzz",
    "96=Zyyy 128=Zzzz 240=Zinh 196112=Zzzz"])

/-- The scripts that code points are used with, separated by commas; a hyphen stands for the
script of the code point itself. -/
def scriptExtensionRuns : Runs := Runs.ofText
  (" ".intercalate [
    "183=- 1=Avst,Cari,Copt,Dupl,Elba,Geor,Glag,Gong,Goth,Grek,Hani,Latn,Lydi,Mahj,Perm,Shaw",
    "516=- 1=Beng,Cyrl,Deva,Latn,Lisu,Thai,Toto 10=- 1=Bopo,Latn 1=- 3=Bopo,Latn 1=- 1=Latn,Lisu",
    "9=- 1=Latn,Thai 1=- 1=Bopo,Latn 38=- 1=Cher,Copt,Cyrl,Grek,Latn,Perm,Tale,Sunu",
    "1=Cher,Cyrl,Grek,Latn,Osge,Tale,Sunu,Todr 1=Cher,Cyrl,Latn,Tfng 1=Glag,Latn,Syrc,Thai,Sunu",
    "1=Aghb,Cher,Copt,Cyrl,Goth,Grek,Latn,Osge,Syrc,Tfng,Todr 1=Copt,Elba,Glag,Goth,Kana,Latn",
    "1=Cyrl,Grek,Latn,Perm,Tfng 1=Copt,Dupl,Hebr,Latn,Perm,Syrc,Tale,Tfng,Todr",
    "1=Armn,Cyrl,Dupl,Goth,Grek,Hebr,Latn,Perm,Syrc,Tale,Tfng 1=Latn,Tfng 1=Dupl,Latn,Syrc",
    "1=Cher,Cyrl,Latn,Osge 1=Cher,Latn,Tale 1=Latn,Sunu 1=Ethi,Latn 1=- 1=Latn,Sunu",
    "1=Cyrl,Latn,Todr 1=- 1=Grek,Latn,Perm,Todr 15=- 1=Cher,Dupl,Kana,Latn,Syrc,Tfng",
    "1=Cher,Dupl,Latn,Syrc 1=Latn,Syrc 7=- 1=Latn,Syrc,Sunu 1=Latn,Syrc 1=- 1=Cher,Latn,Syrc",
    "1=Aghb,Cher,Goth,Latn,Syrc,Thai,Sunu 16=- 1=Grek 2=- 1=Grek 18=- 1=Latn,Osge 5=-",
    "1=Aghb,Latn,Todr 4=- 13=Latn 4=- 2=Copt,Grek 269=- 1=Cyrl,Perm 1=Cyrl,Glag 2=Cyrl,Latn",
    "1=Cyrl,Glag 257=- 1=Armn,Geor,Glag 130=- 1=Arab,Nkoo,Rohg,Syrc,Thaa,Yezi,Gara 14=-",
    "1=Arab,Nkoo,Rohg,Syrc,Thaa,Yezi,Gara 1=Arab,Syrc,Thaa 2=-",
    "1=Adlm,Arab,Nkoo,Rohg,Syrc,Thaa,Yezi,Gara 32=-",
    "1=Adlm,Arab,Mand,Mani,Ougr,Phlp,Rohg,Sogd,Syrc 10=- 11=Arab,Syrc 10=- 10=Arab,Thaa,Yezi 6=-",
    "1=Arab,Syrc 99=- 1=Arab,Rohg 636=-",
    "1=Beng,Deva,Gran,Gujr,Guru,Knda,Latn,Mlym,Nand,Newa,Orya,Shrd,Taml,Telu,Tirh",
    "1=Beng,Deva,Gran,Gujr,Guru,Knda,Latn,Mlym,Newa,Orya,Taml,Telu,Tirh 17=-",
    "1=Beng,Deva,Dogr,Gong,Gonm,Gran,Gujr,Guru,Knda,Mahj,Mlym,Nand,Orya,Sind,Sinh,Sylo,Takr,Taml,Telu,Tirh,Onao",
    "1=Beng,Deva,Dogr,Gong,Gonm,Gran,Gujr,Guru,Knda,Limb,Mahj,Mlym,Nand,Orya,Sind,Sinh,Sylo,Takr,Taml,Telu,Tirh,Gukh,Onao",
    "10=Deva,Dogr,Kthi,Mahj 118=- 10=Beng,Cakm,Sylo 118=- 10=Guru,Mult 118=- 10=Gujr,Khoj 246=-",
    "14=Gran,Taml 242=- 10=Knda,Nand,Tutg 848=- 10=Cakm,Mymr,Tale 177=- 1=Geor,Glag,Latn 1519=-",
    "3=Runr 71=- 2=Buhd,Hano,Tagb,Tglg 203=- 2=Mong,Phag 1=- 1=Mong,Phag 1226=-",
    "1=Beng,Deva,Gran,Knda 1=Deva 1=Beng,Deva,Gran,Knda 1=Deva,Gran,Knda 1=Deva",
    "1=Beng,Deva,Newa,Telu,Tirh 1=Beng,Deva,Telu 1=Deva,Newa,Shrd 1=Beng,Deva,Newa,Telu",
    "1=Deva,Shrd 1=Deva,Knda,Mlym,Orya,Taml,Telu 1=Deva 2=Deva,Shrd 2=Deva 1=Deva,Shrd",
    "1=Beng,Deva 1=Deva,Newa,Tirh 6=Deva 1=Deva,Nand,Newa 1=Beng,Deva,Shrd 1=Deva,Newa 1=Deva",
    "1=Beng,Deva,Newa,Shrd 4=Deva 1=Beng,Deva,Gran,Knda,Mlym,Nand,Orya,Sinh,Telu,Tirh,Tutg",
    "1=Deva,Gran 1=Deva,Gran,Knda,Tutg 2=Beng,Deva 1=Beng 2=Deva,Gran 1=Nand 197=- 2=Grek 54=-",
    "1=Cyrl,Latn,Syrc 1=- 1=Syrc 564=- 1=Latn,Mong,Phag 31=- 1=Adlm,Arab 10=-",
    "1=Cari,Geor,Glag,Hung,Lyci,Orkh 2=- 1=Cari,Grek,Hung,Mero 146=- 1=Deva,Gran,Latn 3366=-",
    "1=Copt,Latn 24=- 1=Avst,Orkh 1=Avst,Cari,Geor,Hung,Kthi,Lydi,Samr 10=- 1=Dupl 4=-",
    "1=Adlm,Arab,Hung 1=- 1=Cyrl,Glag 428=- 16=Hani,Tang 1=-",
    "1=Bopo,Hang,Hani,Hira,Kana,Mong,Yiii 1=Bopo,Hang,Hani,Hira,Kana,Mong,Phag,Yiii",
    "1=Bopo,Hang,Hani,Hira,Kana 2=- 1=Hani 1=- 2=Bopo,Hang,Hani,Hira,Kana,Mong,Tibt,Yiii",
    "2=Bopo,Hang,Hani,Hira,Kana,Lisu,Mong,Tibt,Yiii 6=Bopo,Hang,Hani,Hira,Kana,Yiii 1=-",
    "1=Bopo,Hang,Hani,Hira,Kana 8=Bopo,Hang,Hani,Hira,Kana,Yiii 4=Bopo,Hang,Hani,Hira,Kana 10=-",
    "4=Bopo,Hani 2=- 1=Bopo,Hang,Hani,Hira,Kana 5=Hira,Kana 1=- 1=Bopo,Hang,Hani,Hira,Kana 4=-",
    "2=Hani,Hira,Kana 2=Hani 89=- 4=Hira,Kana 3=- 1=Hira,Kana 90=-",
    "1=Bopo,Hang,Hani,Hira,Kana,Yiii 1=Hira,Kana 147=- 16=Hani 32=- 38=Hani 9=- 1=Hani,Tang 48=-",
    "40=Hani 56=- 49=Hani 15=- 12=Hani 51=- 1=Hani 88=- 25=Hani 10=- 5=Hani 96=- 31=Hani 29296=-",
    "1=Cyrl,Glag 144=- 8=Hani,Latn 296=-",
    "3=Deva,Dogr,Gujr,Guru,Khoj,Knda,Kthi,Mahj,Mlym,Modi,Nand,Shrd,Sind,Takr,Tirh,Tutg",
    "3=Deva,Dogr,Gujr,Guru,Khoj,Knda,Kthi,Mahj,Modi,Nand,Shrd,Sind,Takr,Tirh,Tutg",
    "2=Deva,Dogr,Gujr,Guru,Khoj,Kthi,Mahj,Modi,Sind,Takr,Tirh",
    "1=Deva,Dogr,Gujr,Guru,Khoj,Kthi,Mahj,Modi,Shrd,Sind,Takr,Tirh",
    "1=Deva,Dogr,Gujr,Guru,Khoj,Kthi,Mahj,Modi,Sind,Takr,Tirh 183=- 1=Beng,Deva,Tutg 1=-",
    "1=Deva,Taml 58=- 1=Kali,Latn,Mymr 160=- 1=Bugi,Java 21358=- 2=Arab,Nkoo 178=- 1=Arab,Thaa",
    "10=- 1=Arab,Thaa 71=- 2=Bopo,Hang,Hani,Hira,Kana 282=- 5=Bopo,Hang,Hani,Hira,Kana,Yiii 10=-",
    "1=Hira,Kana 45=- 2=Hira,Kana 352=- 2=Cpmn,Cprt,Linb 1=Cprt,Linb 4=- 45=Cprt,Lina,Linb 3=-",
    "9=Cprt,Linb 416=- 28=Arab,Copt 2038=- 1=Mani,Ougr 2062=- 1=Gran,Taml 1=- 1=Gran,Taml 55=-",
    "2=Gran,Taml 3219=- 2=Gran,Taml 1=- 1=Gran,Taml 40140=- 4=Dupl 5820=- 18=Hani 7902=- 2=Hani",
    "986542=-"])

/-- The script of a character. -/
def script (c : Char) : String := scriptRuns.value c

/-- The scripts that a character is used with. -/
def scriptExtensions (c : Char) : List String :=
  match scriptExtensionRuns.value c with
  | "-" => [script c]
  | codes => codes.splitOn ","

/-- The scripts with the ways to spell them, the code first. -/
def scriptSpellings : String :=
  (" ".intercalate [
    "Adlm Adlam | Aghb Caucasian_Albanian | Ahom | Arab Arabic | Armi Imperial_Aramaic | Armn",
    "Armenian | Avst Avestan | Bali Balinese | Bamu Bamum | Bass Bassa_Vah | Batk Batak | Beng",
    "Bengali | Bhks Bhaiksuki | Bopo Bopomofo | Brah Brahmi | Brai Braille | Bugi Buginese |",
    "Buhd Buhid | Cakm Chakma | Cans Canadian_Aboriginal | Cari Carian | Cham | Cher Cherokee |",
    "Chrs Chorasmian | Copt Coptic Qaac | Cpmn Cypro_Minoan | Cprt Cypriot | Cyrl Cyrillic |",
    "Deva Devanagari | Diak Dives_Akuru | Dogr Dogra | Dsrt Deseret | Dupl Duployan | Egyp",
    "Egyptian_Hieroglyphs | Elba Elbasan | Elym Elymaic | Ethi Ethiopic | Geor Georgian | Glag",
    "Glagolitic | Gong Gunjala_Gondi | Gonm Masaram_Gondi | Goth Gothic | Gran Grantha | Grek",
    "Greek | Gujr Gujarati | Guru Gurmukhi | Hang Hangul | Hani Han | Hano Hanunoo | Hatr Hatran",
    "| Hebr Hebrew | Hira Hiragana | Hluw Anatolian_Hieroglyphs | Hmng Pahawh_Hmong | Hmnp",
    "Nyiakeng_Puachue_Hmong | Hung Old_Hungarian | Ital Old_Italic | Java Javanese | Kali",
    "Kayah_Li | Kana Katakana | Kawi | Khar Kharoshthi | Khmr Khmer | Khoj Khojki | Kits",
    "Khitan_Small_Script | Knda Kannada | Kthi Kaithi | Lana Tai_Tham | Laoo Lao | Latn Latin |",
    "Lepc Lepcha | Limb Limbu | Lina Linear_A | Linb Linear_B | Lisu | Lyci Lycian | Lydi Lydian",
    "| Mahj Mahajani | Maka Makasar | Mand Mandaic | Mani Manichaean | Marc Marchen | Medf",
    "Medefaidrin | Mend Mende_Kikakui | Merc Meroitic_Cursive | Mero Meroitic_Hieroglyphs | Mlym",
    "Malayalam | Modi | Mong Mongolian | Mroo Mro | Mtei Meetei_Mayek | Mult Multani | Mymr",
    "Myanmar | Nagm Nag_Mundari | Nand Nandinagari | Narb Old_North_Arabian | Nbat Nabataean |",
    "Newa | Nkoo Nko | Nshu Nushu | Ogam Ogham | Olck Ol_Chiki | Orkh Old_Turkic | Orya Oriya |",
    "Osge Osage | Osma Osmanya | Ougr Old_Uyghur | Palm Palmyrene | Pauc Pau_Cin_Hau | Perm",
    "Old_Permic | Phag Phags_Pa | Phli Inscriptional_Pahlavi | Phlp Psalter_Pahlavi | Phnx",
    "Phoenician | Plrd Miao | Prti Inscriptional_Parthian | Rjng Rejang | Rohg Hanifi_Rohingya |",
    "Runr Runic | Samr Samaritan | Sarb Old_South_Arabian | Saur Saurashtra | Sgnw SignWriting |",
    "Shaw Shavian | Shrd Sharada | Sidd Siddham | Sind Khudawadi | Sinh Sinhala | Sogd Sogdian |",
    "Sogo Old_Sogdian | Sora Sora_Sompeng | Soyo Soyombo | Sund Sundanese | Sylo Syloti_Nagri |",
    "Syrc Syriac | Tagb Tagbanwa | Takr Takri | Tale Tai_Le | Talu New_Tai_Lue | Taml Tamil |",
    "Tang Tangut | Tavt Tai_Viet | Telu Telugu | Tfng Tifinagh | Tglg Tagalog | Thaa Thaana |",
    "Thai | Tibt Tibetan | Tirh Tirhuta | Tnsa Tangsa | Toto | Ugar Ugaritic | Vaii Vai | Vith",
    "Vithkuqi | Wara Warang_Citi | Wcho Wancho | Xpeo Old_Persian | Xsux Cuneiform | Yezi Yezidi",
    "| Yiii Yi | Zanb Zanabazar_Square | Zinh Inherited Qaai | Zyyy Common | Gara Garay | Gukh",
    "Gurung_Khema | Krai Kirat_Rai | Onao Ol_Onal | Sunu Sunuwar | Todr Todhri | Tutg",
    "Tulu_Tigalari | Zzzz Unknown | Hrkt Katakana_Or_Hiragana"])

end TreeQuery.Regex.Unicode
