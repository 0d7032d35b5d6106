/-!
# Characters that a quoted text does not show

Controls, formats, blanks other than the space, unassigned and private characters, and the marks
that extend the character before them. Each row `p+n` stands for the `n` characters from `p` on,
both in hexadecimal; ASCII characters below U+007F are not listed.
-/

namespace Gatehouse.Quoted

/-- The runs of characters that are not shown. -/
def hiddenRows : List String := [
  "7f+22 ad+1 300+70 378+2 380+4 38b+1 38d+1 3a2+1 483+7 530+1 557+2 58b+2 590+2e 5bf+1 5c1+2",
  "5c4+2 5c7+9 5eb+4 5f5+11 610+b 61c+1 64b+15 670+1 6d6+8 6df+6 6e7+2 6ea+4 70e+2 711+1 730+1d",
  "7a6+b 7b2+e 7eb+9 7fb+3 816+4 81b+9 825+3 829+7 83f+1 859+5 85f+1 86b+5 890+7 898+8 8ca+39",
  "93a+1 93c+1 941+8 94d+1 951+7 962+2 981+1 984+1 98d+2 991+2 9a9+1 9b1+1 9b3+3 9ba+3 9be+1",
  "9c1+6 9c9+2 9cd+1 9cf+d 9de+1 9e2+4 9fe+5 a04+1 a0b+4 a11+2 a29+1 a31+1 a34+1 a37+1 a3a+4",
  "a41+18 a5d+1 a5f+7 a70+2 a75+1 a77+c a84+1 a8e+1 a92+1 aa9+1 ab1+1 ab4+1 aba+3 ac1+8 aca+1",
  "acd+3 ad1+f ae2+4 af2+7 afa+8 b04+1 b0d+2 b11+2 b29+1 b31+1 b34+1 b3a+3 b3e+2 b41+6 b49+2",
  "b4d+f b5e+1 b62+4 b78+b b84+1 b8b+3 b91+1 b96+3 b9b+1 b9d+1 ba0+3 ba5+3 bab+3 bba+5 bc0+1",
  "bc3+3 bc9+1 bcd+3 bd1+15 bfb+6 c04+1 c0d+1 c11+1 c29+1 c3a+3 c3e+3 c45+13 c5b+1 c5e+2 c62+4",
  "c70+7 c81+1 c8d+1 c91+1 ca9+1 cb4+1 cba+3 cbf+1 cc2+1 cc5+2 cc9+1 ccc+10 cdf+1 ce2+4 cf0+1",
  "cf4+e d0d+1 d11+1 d3b+2 d3e+1 d41+5 d49+1 d4d+1 d50+4 d57+1 d62+4 d80+2 d84+1 d97+3 db2+1",
  "dbc+1 dbe+2 dc7+9 dd2+6 ddf+7 df0+2 df5+c e31+1 e34+b e47+8 e5c+25 e83+1 e85+1 e8b+1 ea4+1",
  "ea6+1 eb1+1 eb4+9 ebe+2 ec5+1 ec7+7 ecf+1 eda+2 ee0+20 f18+2 f35+1 f37+1 f39+1 f48+1 f6d+12",
  "f80+5 f86+2 f8d+31 fc6+1 fcd+1 fdb+25 102d+4 1032+6 1039+2 103d+2 1058+2 105e+3 1071+4",
  "1082+1 1085+2 108d+1 109d+1 10c6+1 10c8+5 10ce+2 1249+1 124e+2 1257+1 1259+1 125e+2 1289+1",
  "128e+2 12b1+1 12b6+2 12bf+1 12c1+1 12c6+2 12d7+1 1311+1 1316+2 135b+5 137d+3 139a+6 13f6+2",
  "13fe+2 1680+1 169d+3 16f9+7 1712+3 1716+9 1732+2 1737+9 1752+e 176d+1 1771+f 17b4+2 17b7+7",
  "17c6+1 17c9+b 17dd+3 17ea+6 17fa+6 180b+5 181a+6 1879+7 1885+2 18a9+1 18ab+5 18f6+a 191f+4",
  "1927+2 192c+4 1932+1 1939+7 1941+3 196e+2 1975+b 19ac+4 19ca+6 19db+3 1a17+2 1a1b+3 1a56+1",
  "1a58+9 1a62+1 1a65+8 1a73+d 1a8a+6 1a9a+6 1aae+21 1ade+2 1aec+18 1b34+7 1b3c+1 1b42+1 1b4d+1",
  "1b6b+9 1b80+2 1ba2+4 1ba8+2 1bab+3 1be6+1 1be8+2 1bed+1 1bef+3 1bf4+8 1c2c+8 1c36+5 1c4a+3",
  "1c8b+5 1cbb+2 1cc8+b 1cd4+d 1ce2+7 1ced+1 1cf4+1 1cf8+2 1cfb+5 1dc0+40 1f16+2 1f1e+2 1f46+2",
  "1f4e+2 1f58+1 1f5a+1 1f5c+1 1f5e+1 1f7e+2 1fb5+1 1fc5+1 1fd4+2 1fdc+1 1ff0+2 1ff5+1 1fff+11",
  "2028+8 205f+11 2072+2 208f+1 209d+3 20c2+3e 218c+4 242a+16 244b+15 2b74+2 2cef+3 2cf4+5",
  "2d26+1 2d28+5 2d2e+2 2d68+7 2d71+f 2d97+9 2da7+1 2daf+1 2db7+1 2dbf+1 2dc7+1 2dcf+1 2dd7+1",
  "2ddf+21 2e5e+22 2e9a+1 2ef4+c 2fd6+1a 2ffc+5 302a+6 3040+1 3097+4 3100+5 3130+1 318f+1",
  "31e6+a 321f+1 a48d+3 a4c7+9 a62c+14 a66f+4 a674+a a69e+2 a6f0+2 a6f8+8 a7dd+14 a802+1 a806+1",
  "a80b+1 a825+2 a82c+4 a83a+6 a878+8 a8c4+a a8da+18 a8ff+1 a926+8 a947+b a954+b a97d+6 a9b3+1",
  "a9b6+4 a9bc+2 a9ce+1 a9da+4 a9e5+1 a9ff+1 aa29+6 aa31+2 aa35+b aa43+1 aa4c+1 aa4e+2 aa5a+2",
  "aa7c+1 aab0+1 aab2+3 aab7+2 aabe+2 aac1+1 aac3+18 aaec+2 aaf6+b ab07+2 ab0f+2 ab17+9 ab27+1",
  "ab2f+1 ab6c+4 abe5+1 abe8+1 abed+3 abfa+6 d7a4+c d7c7+4 d7fc+2104 fa6e+2 fada+26 fb07+c",
  "fb18+5 fb1e+1 fb37+1 fb3d+1 fb3f+1 fb42+1 fb45+1 fdd0+20 fe00+10 fe1a+16 fe53+1 fe67+1",
  "fe6c+4 fe75+1 fefd+4 ff9e+2 ffbf+3 ffc8+2 ffd0+2 ffd8+2 ffdd+3 ffe7+1 ffef+d fffe+2 1000c+1",
  "10027+1 1003b+1 1003e+1 1004e+2 1005e+22 100fb+5 10103+4 10134+3 1018f+1 1019d+3 101a1+2f",
  "101fd+83 1029d+3 102d1+10 102fc+4 10324+9 1034b+5 10376+a 1039e+1 103c4+4 103d6+2a 1049e+2",
  "104aa+6 104d4+4 104fc+4 10528+8 10564+b 1057b+1 1058b+1 10593+1 10596+1 105a2+1 105b2+1",
  "105ba+1 105bd+3 105f4+c 10737+9 10756+a 10768+18 10786+1 107b1+1 107bb+45 10806+2 10809+1",
  "10836+1 10839+3 1083d+2 10856+1 1089f+8 108b0+30 108f3+1 108f6+5 1091c+3 1093a+5 1095a+26",
  "109b8+4 109d0+2 10a01+f 10a14+1 10a18+1 10a36+a 10a49+7 10a59+7 10aa0+20 10ae5+6 10af7+9",
  "10b36+3 10b56+2 10b73+5 10b92+7 10b9d+c 10bb0+50 10c49+37 10cb3+d 10cf3+7 10d24+c 10d3a+6",
  "10d66+3 10d86+8 10d90+d0 10e7f+1 10eaa+3 10eae+2 10eb2+10 10ec8+8 10ed9+21 10f28+8 10f46+b",
  "10f5a+16 10f82+4 10f8a+26 10fcc+14 10ff7+9 11001+1 11038+f 1104e+4 11070+1 11073+2 11076+c",
  "110b3+4 110b9+2 110bd+1 110c2+e 110e9+7 110fa+9 11127+5 1112d+9 11148+8 11173+1 11177+b",
  "111b6+9 111c9+4 111cf+1 111e0+1 111f5+b 11212+1 1122f+3 11234+1 11236+2 1123e+1 11242+3e",
  "11287+1 11289+1 1128e+1 1129e+1 112aa+6 112df+1 112e3+d 112fa+8 11304+1 1130d+2 11311+2",
  "11329+1 11331+1 11334+1 1133a+3 1133e+1 11340+1 11345+2 11349+2 1134e+2 11351+c 11364+1c",
  "1138a+1 1138c+2 1138f+1 113b6+1 113c1+1 113c3+2 113c6+1 113cb+1 113d6+1 113d9+8 113e3+1d",
  "11438+8 11442+3 11446+1 1145c+1 1145e+1 11462+1e 114b0+1 114b3+6 114ba+1 114bd+1 114bf+2",
  "114c2+2 114c8+8 114da+a6 115af+1 115b2+6 115bc+2 115bf+2 115dc+24 11633+8 1163d+1 1163f+2",
  "11645+b 1165a+6 1166d+13 116ab+1 116ad+1 116b0+6 116b7+1 116ba+6 116ca+6 116e4+1c 1171b+5",
  "11722+4 11727+9 11747+b9 1182f+9 11839+2 1183c+64 118f3+c 11907+2 1190a+2 11914+1 11917+1",
  "11930+1 11936+1 11939+4 1193e+1 11943+1 11947+9 1195a+46 119a8+2 119d4+8 119e0+1 119e5+1b",
  "11a01+a 11a33+6 11a3b+4 11a47+9 11a51+6 11a59+3 11a8a+d 11a98+2 11aa3+d 11af9+7 11b0a+56",
  "11b68+58 11be2+e 11bfa+6 11c09+1 11c30+e 11c3f+1 11c46+a 11c6d+3 11c90+19 11caa+7 11cb2+2",
  "11cb5+4b 11d07+1 11d0a+1 11d31+15 11d47+9 11d5a+6 11d66+1 11d69+1 11d8f+4 11d95+1 11d97+1",
  "11d99+7 11daa+6 11ddc+4 11dea+f6 11ef3+2 11ef9+7 11f11+1 11f3b+3 11f5b+55 11fb1+f 11ff2+d",
  "1239a+66 1246f+1 12475+b 12544+a4c 12ff3+d 13430+10 13456+a 143fb+5 14647+1ab9 1613a+6c6",
  "16a39+7 16a5f+1 16a6a+4 16abf+1 16aca+6 16aee+7 16af6+a 16b30+7 16b46+a 16b5a+1 16b62+1",
  "16b78+5 16b90+1b0 16d7a+c6 16e9b+5 16eb9+2 16ed4+2c 16f4b+5 16f88+b 16fa0+40 16fe4+c 16ff7+9",
  "18cd6+29 18d1f+61 18df3+21fd 1aff4+1 1affc+1 1afff+1 1b123+f 1b133+1d 1b153+2 1b156+e",
  "1b168+8 1b2fc+904 1bc6b+5 1bc7d+3 1bc89+7 1bc9a+2 1bc9d+2 1bca0+f60 1ccfd+3 1ceb4+6 1ced1+f",
  "1cef1+5f 1cfc4+3c 1d0f6+a 1d127+2 1d165+1 1d167+3 1d16e+15 1d185+7 1d1aa+4 1d1eb+15 1d242+3",
  "1d246+7a 1d2d4+c 1d2f4+c 1d357+9 1d379+87 1d455+1 1d49d+1 1d4a0+2 1d4a3+2 1d4a7+2 1d4ad+1",
  "1d4ba+1 1d4bc+1 1d4c4+1 1d506+1 1d50b+2 1d515+1 1d51d+1 1d53a+1 1d53f+1 1d545+1 1d547+3",
  "1d551+1 1d6a6+2 1d7cc+2 1da00+37 1da3b+32 1da75+1 1da84+1 1da8c+474 1df1f+6 1df2b+105",
  "1e06e+21 1e090+70 1e12d+a 1e13e+2 1e14a+4 1e150+140 1e2ae+12 1e2ec+4 1e2fa+5 1e300+1d0",
  "1e4fa+d6 1e5fb+4 1e600+c0 1e6df+1 1e6f6+8 1e700+e0 1e7e7+1 1e7ec+1 1e7ef+1 1e7ff+1 1e8c5+2",
  "1e8d0+30 1e944+7 1e94c+4 1e95a+4 1e960+311 1ecb5+4c 1ed3e+c2 1ee04+1 1ee20+1 1ee23+1 1ee25+2",
  "1ee28+1 1ee33+1 1ee38+1 1ee3a+1 1ee3c+6 1ee43+4 1ee48+1 1ee4a+1 1ee4c+1 1ee50+1 1ee53+1",
  "1ee55+2 1ee58+1 1ee5a+1 1ee5c+1 1ee5e+1 1ee60+1 1ee63+1 1ee65+2 1ee6b+1 1ee73+1 1ee78+1",
  "1ee7d+1 1ee7f+1 1ee8a+1 1ee9c+5 1eea4+1 1eeaa+1 1eebc+34 1eef2+10e 1f02c+4 1f094+c 1f0af+2",
  "1f0c0+1 1f0d0+1 1f0f6+a 1f1ae+38 1f203+d 1f23c+4 1f249+7 1f252+e 1f266+9a 1f6d9+3 1f6ed+3",
  "1f6fd+3 1f7da+6 1f7ec+4 1f7f1+f 1f80c+4 1f848+8 1f85a+6 1f888+8 1f8ae+2 1f8bc+4 1f8c2+e",
  "1f8d9+27 1fa58+8 1fa6e+2 1fa7d+3 1fa8b+3 1fac7+1 1fac9+4 1fadd+2 1faeb+4 1faf9+7 1fb93+1",
  "1fbfb+405 2a6e0+20 2b81e+2 2ceae+2 2ebe1+f 2ee5e+9a2 2fa1e+5e2 3134b+5 3347a+dcb86"]

end Gatehouse.Quoted
