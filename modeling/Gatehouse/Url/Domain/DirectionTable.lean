/-!
# Data of writing directions and of joining letters

The characters that are not written from left to right, and the letters of joined scripts. A row
`p+n` stands for the `n` characters from `p` on, both in hexadecimal; characters that no domain
contains may belong to any row.

## Main definitions

* `rightRows`, `arabicNumberRows`, `europeanNumberRows`, `neutralRows`, `nonspacingRows` : the
  classes of directions; all other characters are written from left to right.
* `dualJoiningRows`, `rightJoiningRows`, `leftJoiningRows` : how letters join their neighbours.
-/

namespace Gatehouse.Domain

/-- The characters that are written from right to left. -/
def rightRows : List String := [
  "5be+1 5c0+1 5c3+1 5c6+1 5d0+25 608+1 60b+1 60d+1 61b+30 66d+3 671+65 6e5+2 6ee+2 6fa+17",
  "712+1e 74d+59 7b1+3a 7f4+2 7fa+1 7fe+18 81a+1 824+1 828+1 830+29 85e+3a 8a0+2a fbb2+21",
  "fd90+3f fe73+1 10800+11c 10920+e1 10a10+26 10a40+a5 10aeb+4b 10b40+1e4 10d40+50 10e80+2a",
  "10ead+50 10f00+46 10f51+31 10f86+71 1e800+d0 1e922+22 1e94b+3f3"]

/-- The digits that are written like numbers in Arabic text. -/
def arabicNumberRows : List String := [
  "660+a 66b+2 10d30+a 10e60+1f"]

/-- The digits that are written like European numbers. -/
def europeanNumberRows : List String := [
  "30+a 6f0+a 102e1+1b"]

/-- The signs without a direction of their own. -/
def neutralRows : List String := [
  "0+9 e+e 21+f 3a+7 5b+6 7b+5d f7+1 2b9+2 2c2+e 2d2+1c 2ef+11 375+1 3f6+1 58a+6 606+2 609+2",
  "60c+1 60e+2 66a+1 6de+1 6e9+1 7f6+4 9f2+2 9fb+1 af1+1 bf3+8 c78+7 e3f+1 f3a+4 1390+a 1400+1",
  "169b+2 17db+1 17f0+1b 1940+6 19de+22 200c+b6 2104+4a 218a+1ac 237b+1a 2396+91 2440+26c",
  "26ad+153 2900+296 2b97+69 2ce5+6 2cf9+7 2e00+205 3008+19 3030+1 3037+1 303d+3 30a0+1 30fb+1",
  "31c0+24 4dc0+40 a490+37 a60d+3 a673+1 a67e+2 a700+22 a788+1 a828+4 a838+2 a874+4 ab6a+2",
  "fd3e+12 fdcf+31 fe45+2 10101+1 10140+4d 10190+11 1091f+1 10b39+7 11052+14 11660+d 11fd5+1d",
  "16fe2+1 1d1e9+59 1d245+1 1d300+57 1e2ff+1 1eef0+240 1f16d+3 1f1ad+1 1f260+478 1f6dc+9b",
  "1f77b+137 1f900+154 1fa60+29 1fa90+2e 1fabf+7 1face+e 1fae0+9 1faf0+db"]

/-- The marks that take no room of their own. -/
def nonspacingRows : List String := [
  "300+70 483+7 591+2d 5bf+1 5c1+2 5c4+2 5c7+1 610+b 64b+15 670+1 6d6+7 6df+6 6e7+2 6ea+4 711+1",
  "730+1b 7a6+b 7eb+9 7fd+1 816+4 81b+9 825+3 829+5 859+3 898+8 8ca+39 93a+1 93c+1 941+8 94d+1",
  "951+7 962+2 981+1 9bc+1 9c1+4 9cd+1 9e2+2 9fe+5 a3c+1 a41+11 a70+2 a75+1 a81+2 abc+1 ac1+8",
  "acd+1 ae2+2 afa+8 b3c+1 b3f+1 b41+4 b4d+a b62+2 b82+1 bc0+1 bcd+1 c00+1 c04+1 c3c+1 c3e+3",
  "c46+11 c62+2 c81+1 cbc+1 ccc+2 ce2+2 d00+2 d3b+2 d41+4 d4d+1 d62+2 d81+1 dca+1 dd2+5 e31+1",
  "e34+7 e47+8 eb1+1 eb4+9 ec8+7 f18+2 f35+1 f37+1 f39+1 f71+e f80+5 f86+2 f8d+30 fc6+1 102d+4",
  "1032+6 1039+2 103d+2 1058+2 105e+3 1071+4 1082+1 1085+2 108d+1 109d+1 135d+3 1712+3 1732+2",
  "1752+2 1772+2 17b7+7 17c6+1 17c9+b 17dd+1 1885+2 18a9+1 1920+3 1927+2 1932+1 1939+3 1a17+2",
  "1a1b+1 1a56+1 1a58+9 1a62+1 1a65+8 1a73+d 1ab0+1f 1b00+4 1b34+1 1b36+5 1b3c+1 1b42+1 1b6b+9",
  "1b80+2 1ba2+4 1ba8+2 1bab+3 1be6+1 1be8+2 1bed+1 1bef+3 1c2c+8 1c36+2 1cd0+3 1cd4+d 1ce2+7",
  "1ced+1 1cf4+1 1cf8+2 1dc0+40 20d0+21 2cef+3 2d7f+1 2de0+20 302a+4 3099+2 a66f+4 a674+a",
  "a69e+2 a6f0+2 a802+1 a806+1 a80b+1 a825+2 a82c+1 a8c4+2 a8e0+12 a8ff+1 a926+8 a947+b a980+3",
  "a9b3+1 a9b6+4 a9bc+2 a9e5+1 aa29+6 aa31+2 aa35+2 aa43+1 aa4c+1 aa7c+1 aab0+1 aab2+3 aab7+2",
  "aabe+2 aac1+1 aaec+2 aaf6+1 abe5+1 abe8+1 abed+1 fb1e+1 fe20+10 101fd+1 102e0+1 10376+5",
  "10a01+f 10a38+8 10ae5+2 10d24+4 10eab+2 10efd+3 10f46+b 10f82+4 11001+1 11038+f 11070+1",
  "11073+2 1107f+3 110b3+4 110b9+2 110c2+1 11100+3 11127+5 1112d+8 11173+1 11180+2 111b6+9",
  "111c9+4 111cf+1 1122f+3 11234+1 11236+2 1123e+1 11241+1 112df+1 112e3+8 11300+2 1133b+2",
  "11340+1 11366+f 11438+8 11442+3 11446+1 1145e+1 114b3+6 114ba+1 114bf+2 114c2+2 115b2+4",
  "115bc+2 115bf+2 115dc+2 11633+8 1163d+1 1163f+2 116ab+1 116ad+1 116b0+6 116b7+1 1171d+3",
  "11722+4 11727+5 1182f+9 11839+2 1193b+2 1193e+1 11943+1 119d4+8 119e0+1 11a01+6 11a09+2",
  "11a33+6 11a3b+4 11a47+1 11a51+6 11a59+3 11a8a+d 11a98+2 11c30+e 11c92+16 11caa+7 11cb2+2",
  "11cb5+2 11d31+15 11d47+1 11d90+2 11d95+1 11d97+1 11ef3+2 11f00+2 11f36+5 11f40+1 11f42+1",
  "13440+1 13447+f 16af0+5 16b30+7 16f4f+1 16f8f+4 16fe4+1 1bc9d+2 1cf00+47 1d167+3 1d17b+8",
  "1d185+7 1d1aa+4 1d242+3 1da00+37 1da3b+32 1da75+1 1da84+1 1da9b+15 1e000+90 1e130+7 1e2ae+1",
  "1e2ec+4 1e4ec+4 1e8d0+7 1e944+7"]

/-- The letters that join the letters on both sides. -/
def dualJoiningRows : List String := [
  "620+1 626+1 628+1 62a+5 633+d 641+7 649+2 66e+2 679+f 69a+26 6c1+2 6cc+1 6ce+1 6d0+2 6fa+3",
  "6ff+1 712+3 71a+4 71f+9 729+1 72b+1 72d+2 74e+b 75c+f 76d+4 772+1 775+3 77a+6 7ca+21 841+5",
  "848+1 84a+a 855+1 860+1 862+4 868+1 886+1 889+5 8a0+a 8af+2 8b3+6 8ba+f 1807+1 1820+59",
  "1887+22 18aa+1 a840+32 10ac0+5 10ad3+4 10ad8+5 10ade+3 10aeb+4 10b80+1 10b82+1 10b86+3",
  "10b8a+2 10b8d+1 10b90+1 10bad+2 10d01+21 10d23+1 10f30+3 10f34+11 10f51+3 10f70+4 10f76+c",
  "10fb0+1 10fb2+2 10fb8+1 10fbb+2 10fbe+2 10fc1+1 10fc4+1 10fca+1 1e922+22"]

/-- The letters that join the letter in front only. -/
def rightJoiningRows : List String := [
  "622+4 627+1 629+1 62f+4 648+1 671+3 688+12 6c0+1 6c3+9 6cd+1 6cf+1 6d2+2 6d5+1 6ee+2 710+1",
  "715+5 71e+1 728+1 72a+1 72c+1 72f+1 74d+1 759+3 76b+2 771+1 773+2 778+2 840+1 846+2 849+1",
  "854+1 856+3 867+1 869+1a 88e+1 8aa+3 8ae+1 8b1+2 8b9+1 10ac5+1 10ac7+1 10ac9+2 10ace+5",
  "10add+1 10ae1+1 10ae4+1 10aef+1 10b81+1 10b83+3 10b89+1 10b8c+1 10b8e+2 10b91+1 10ba9+4",
  "10d22+1 10f33+1 10f54+1 10f74+2 10fb4+3 10fb9+2 10fbd+1 10fc2+2 10fc9+1"]

/-- The letters that join the letter behind only. -/
def leftJoiningRows : List String := [
  "a872+1 10acd+1 10ad7+1 10d00+1 10fcb+1"]

end Gatehouse.Domain
