import Reshape.Text.Table

namespace Reshape.Text

def categories : Table := .ofText
  "Cc:Control:cntrl 0+32 95+33 Cf:Format 173 1362+6 22 192 49 384+2 80 3883 2044+5 26+5 49+5 1+10
  56975 249+3 4289 15 9058+16 34912+4 5327+8 798342 30+96 Co:Private_Use 57344+6400 919296+65534
  2+65534 Ll:Lowercase_Letter 97+26 58 41+24 1+8 1 1 1 1 1 1 1 1 1 1 1 1 1 1 1 1 1 1 1 1 1 1 1 1 1
  1 1 1+2 1 1 1 1 1 1 1 1+2 1 1 1 1 1 1 1 1 1 1 1 1 1 1 1 1 1 1 1 1 1 1 1 2 1 1+3 2 1 2 3+2 4 2
  3+3 2 2 1 1 2 1+2 1 2 3 1 2+2 2+3 6 2 2 1 1 1 1 1 1 1 1+2 1 1 1 1 1 1 1 1 1+2 2 1 3 1 1 1 1 1 1
  1 1 1 1 1 1 1 1 1 1 1 1 1 1 1 1 1 1 1 1 1 1 1+7 2 2+2 1 4 1 1 1 1+69 1+27 193 1 3 3+3 18 27+35
  1+2 3+3 1 1 1 1 1 1 1 1 1 1 1 1+5 1 2 2+2 51+48 1 1 1 1 1 1 1 1 1 1 1 1 1 1 1 1 1 9 1 1 1 1 1 1
  1 1 1 1 1 1 1 1 1 1 1 1 1 1 1 1 1 1 1 1 2 1 1 1 1 1 1+2 1 1 1 1 1 1 1 1 1 1 1 1 1 1 1 1 1 1 1 1
  1 1 1 1 1 1 1 1 1 1 1 1 1 1 1 1 1 1 1 1 1 1 1 1 1 1 1 1 48+41 2887+43 2+3 760+6 2178+9 1 117+44
  63+13 1+34 102 1 1 1 1 1 1 1 1 1 1 1 1 1 1 1 1 1 1 1 1 1 1 1 1 1 1 1 1 1 1 1 1 1 1 1 1 1 1 1 1 1
  1 1 1 1 1 1 1 1 1 1 1 1 1 1 1 1 1 1 1 1 1 1 1 1 1 1 1 1 1 1 1 1 1+9 1 1 1 1 1 1 1 1 1 1 1 1 1 1
  1 1 1 1 1 1 1 1 1 1 1 1 1 1 1 1 1 1 1 1 1 1 1 1 1 1 1 1 1 1 1 1 1 1 1+9 8+6 10+8 8+8 8+6 10+8
  8+8 8+14 2+8 8+8 8+8 8+5 1+2 6 3+3 1+2 8+4 2+2 8+8 10+3 1+2 274 3+2 3 27 4 4 2+2 8+4 4 53
  2731+48 1 3+2 1 1 1 4 1+2 1+6 5 1 1 1 1 1 1 1 1 1 1 1 1 1 1 1 1 1 1 1 1 1 1 1 1 1 1 1 1 1 1 1 1
  1 1 1 1 1 1 1 1 1 1 1 1 1 1 1 1 1+2 7 1 4 12+38 1 5 30995 1 1 1 1 1 1 1 1 1 1 1 1 1 1 1 1 1 1 1
  1 1 1 19 1 1 1 1 1 1 1 1 1 1 1 1 1 135 1 1 1 1 1 1+3 1 1 1 1 1 1 1 1 1 1 1 1 1 1 1 1 1 1 1 1 1 1
  1 1 1 1 1 1 1 1 1 1+8 1 1 2 1 1 1 1 4 1 2 1+3 1 1 1 1 1 1 1 1 1 1 5 5 1 1 1 1 1 1 1 4 1 2 3 1 1
  1 1 1 26 3 821+43 5+9 7+80 20288+7 12+5 1065+26 1229+40 136+36 155+11 1+15 1+7 1+2 1795+51
  125+22 2874+32 21888+32 26010+26 26+7 1+18 26+26 26+4 1 1+7 1+11 26+26 26+26 26+26 26+26 26+26
  26+26 26+26 26+26 26+28 28+25 1+6 26+25 1+6 26+25 1+6 26+25 1+6 26+25 1+6 1 1844+10 1+20 6+6
  2551+34 Lm:Modifier_Letter 688+18 4+12 14+5 7 1 133 5 478 230 164+2 269+2 4 31 9 3 160 167 1236
  127 565 1754 107 611 464+6 174+63 13 34+37 689 13 16+13 3039+2 241 191 469 43+5 5 97+2 93+3
  28438 1250+6 270 114 28+2 121+9 80 23 105+3 3+2 469 22 137 108 21+2 103+4 9 21510 45+2 2016+6
  1+42 1+9 1427 32 24016+4 508+3 40+2 550+13 64+2 1 16396+4 1+7 1+2 12337+62 201+7 941 1119
  Lo:Other_Letter 170 15 256 4+4 208 827+27 4+4 45+32 1+10 35+2 1+99 1 24+2 10+3 2 16 1+30 29+89
  11 24+33 21+22 42+25 7+11 5+24 1+6 17+41 59+54 3 18 7+10 16+15 4+8 2+2 2+22 1+7 1 3+4 3 16 13+2
  1+3 14+2 10 8+6 4+2 2+22 1+7 1+2 1+2 1+2 31+4 1 19+3 16+9 1+3 1+22 1+7 1+2 1+5 3 18 15+2 23 11+8
  2+2 2+22 1+7 1+2 1+5 3 30+2 1+3 15 17 1+6 3+3 1+4 3+2 1 1+2 3+2 3+3 3+12 22 52+8 1+3 1+23 1+16 3
  26+3 2 2+2 30 4+8 1+3 1+23 1+10 1+5 3 31+2 1+2 15+2 17+9 1+3 1+41 2 16 5+3 8+3 24+6 5+18 3+24
  1+9 1 2+7 58+48 1+2 12+6 59+2 1 1+5 1+24 1 1+10 1+2 9 2+5 23+4 32 63+8 1+36 27+5 115+43 20 16+6
  4+4 3 3+2 7+3 4+13 12 113+329 1+4 2+7 1 1+4 2+41 1+4 2+33 1+4 2+7 1 1+4 2+15 1+57 1+4 2+67 37+16
  113+620 2+17 1+26 5+75 6+8 7+18 13+19 14+18 14+13 1+3 15+52 40 67+35 1+53 7+5 2+34 1 5+70 10+31
  49+30 2+5 11+44 4+26 54+23 9+53 176+47 17+8 54+30 13+2 10+44 26+36 41+3 10+30 113+4 1+6 1+2 3
  1082+4 3063+56 24+23 9+7 1+7 1+7 1+7 1+7 1+7 1+7 1+7 551 53 4+86 8 1+90 4 5+43 1+94 17+32 48+16
  512+6592 64+21013 1+1143 67+40 8+268 4+16 10+2 66 49+70 169 103 3+7 1+3 1+4 1+23 29+52 14+50
  62+6 3 1+2 11+28 10+23 25+29 7+47 45+5 2+9 10+5 1+41 23+3 1+8 20+16 1+6 3 3+50 1 3+2 2+5 2 1
  24+2 3+11 7 14+6 2+6 2+6 9+7 1+7 145+35 29+11172 12+23 4+49 8452+366 2+106 67 1+10 1+13 1+5 1
  1+2 1+2 1+108 33+363 18+64 2+54 40+12 116+5 1+135 105+10 1+45 2+31 3+6 2+6 2+6 2+3 35+12 1+26
  1+19 1+2 1+15 2+14 34+123 389+29 3+49 47+32 13+20 1+8 6+38 10+30 2+36 4+8 128+78 98+40 8+52
  92+52 12+311 9+22 10+8 152+6 2 1+44 1+2 3 2+23 10+23 9+31 65+19 1+2 10+22 10+26 70+56 6+2 64
  15+4 1+3 1+29 42+29 3+29 35+8 1+28 27+54 10+22 10+19 13+18 110+73 183+36 38+4 1 304+42 6+2 16+3
  59+29 10 8+22 42+18 46+21 27+23 12+53 57+2 2 13+45 32+25 26+36 29 2 8+35 3 12+48 14+4 21 1 35+18
  1+25 19+2 63+7 1 1+4 1+15 1+10 7+47 38+8 2+2 2+22 1+7 1+2 1+5 3 18 12+5 30+10 1 2 1+38 1 25 1
  44+53 18+4 20+3 30+48 20+2 1 184+47 41+4 36+48 20 59+43 13 71+27 37+7 185+44 211+8 2 2+8 1+2
  1+24 15 1 94+8 2+39 16 1 28 10+40 7 21 11+46 19 18+73 199+33 31+9 1+37 17 49+30 112+7 1+2 1+38
  21 25+6 1+2 1+32 14 327+19 15 1+13 1+34 124 79+922 230+196 2636+97 15+1072 17+6 25+3995 5+583
  6841+30 1762+569 7+31 17+79 17+30 18+48 51+21 5+19 435+40 405+75 5 175+6136 8+1238 41+10
  8951+291 15 29+3 2 14+4 8+396 2308+107 5+13 3+9 7+10 8816 501+45 33 321+30 18+44 484+27 229+30 2
  495+7 1+4 1+2 1+15 1+197 1339+4 1+27 1+2 1 2 1+10 1+4 1 1 6 4 1 1 1+3 1+2 1 2 1 1 1 1 1+2 1 2+4
  1+7 1+4 1+4 1 1+10 1+17 5+3 1+5 1+17 4420+42720 32+4154 6+222 2+5762 14+7473 15+622 2466+542
  1506+4939 5+4192 Lt:Titlecase_Letter 453 2 2 38 7573+8 8+8 8+8 12 15 47 Lu:Uppercase_Letter
  65+26 101+23 1+7 33 1 1 1 1 1 1 1 1 1 1 1 1 1 1 1 1 1 1 1 1 1 1 1 1 1 1 1 2 1 1 1 1 1 1 1 2 1 1
  1 1 1 1 1 1 1 1 1 1 1 1 1 1 1 1 1 1 1 1 1+2 1 1 3+2 1 1+2 1+3 2+4 1+2 1+3 3+2 1+2 1 1 1+2 1 2
  1+2 1+3 1 1+2 3 7 2 2 2 1 1 1 1 1 1 1 2 1 1 1 1 1 1 1 1 2 2 1+3 1 1 1 1 1 1 1 1 1 1 1 1 1 1 1 1
  1 1 1 1 1 1 1 1 1 1 1 1 1 7+2 1+2 2 1+4 1 1 1 1 289 1 3 8 6 1+3 1 1+2 1+17 1+9 35 2+3 3 1 1 1 1
  1 1 1 1 1 1 1 5 2 1+2 2+51 48 1 1 1 1 1 1 1 1 1 1 1 1 1 1 1 1 9 1 1 1 1 1 1 1 1 1 1 1 1 1 1 1 1
  1 1 1 1 1 1 1 1 1 1 1+2 1 1 1 1 1 1 2 1 1 1 1 1 1 1 1 1 1 1 1 1 1 1 1 1 1 1 1 1 1 1 1 1 1 1 1 1
  1 1 1 1 1 1 1 1 1 1 1 1 1 1 1 1 1 1 2+38 2889+38 1 5 722+86 2195 6+43 2+3 320 1 1 1 1 1 1 1 1 1
  1 1 1 1 1 1 1 1 1 1 1 1 1 1 1 1 1 1 1 1 1 1 1 1 1 1 1 1 1 1 1 1 1 1 1 1 1 1 1 1 1 1 1 1 1 1 1 1
  1 1 1 1 1 1 1 1 1 1 1 1 1 1 1 1 1 9 1 1 1 1 1 1 1 1 1 1 1 1 1 1 1 1 1 1 1 1 1 1 1 1 1 1 1 1 1 1
  1 1 1 1 1 1 1 1 1 1 1 1 1 1 1 1 1 1 9+8 8+6 10+8 8+8 8+6 11 1 1 1 8+8 72+4 12+4 12+4 12+5 11+4
  262 4 3+3 2+3 2 3+5 6 1 1 1+4 2+4 10+2 5 61 2684+48 48 1+3 2 1 1 1+4 1 2 8+3 1 1 1 1 1 1 1 1 1 1
  1 1 1 1 1 1 1 1 1 1 1 1 1 1 1 1 1 1 1 1 1 1 1 1 1 1 1 1 1 1 1 1 1 1 1 1 1 1 1 8 1 4 31053 1 1 1
  1 1 1 1 1 1 1 1 1 1 1 1 1 1 1 1 1 1 1 19 1 1 1 1 1 1 1 1 1 1 1 1 1 135 1 1 1 1 1 1 3 1 1 1 1 1 1
  1 1 1 1 1 1 1 1 1 1 1 1 1 1 1 1 1 1 1 1 1 1 1 1 10 1 1+2 1 1 1 1 4 1 2 1 3 1 1 1 1 1 1 1 1 1 1+5
  1+5 1 1 1 1 1 1 1 1+4 1 1+2 3 5 1 1 1 24 22315+26 1221+40 136+36 156+11 1+15 1+7 1+2 1770+51
  157+22 2874+32 21888+32 26016+26 26+26 26+26 26 1+2 2 2+2 2+4 1+8 26+26 26+2 1+4 2+8 1+7 27+2
  1+4 1+5 1 3+7 27+26 26+26 26+26 26+26 26+26 26+26 30+25 33+25 33+25 33+25 33+25 33 4405+34
  Mc:Spacing_Mark 2307 55 2+3 8+4 1+2 50+2 58+3 6+2 2+2 10 43 58+3 66 58+3 8 1+2 53+2 58 1 6+2 2+2
  10 102+2 1+2 3+3 1+3 10 41+3 61+4 61+2 58 1+5 2+2 1+2 9+2 28 14+2 58+3 5+3 1+3 10 42+2 75+3 6+8
  18+2 330+2 63 171+2 4 6 2+2 25+2 10+3 2+7 21+2 2+6 2 10+3 1656 30 129 7+8 1+2 346+4 2+3 4+2 1+6
  224+2 58 1 9 1+2 8+6 145 48 5 1+5 1+2 61 30 4+2 2 60 2+3 1 3+2 48+8 8+2 171 21 4918+2 30707+2 2
  88+2 50+16 142+2 47 48+2 4+2 2+3 110+2 2+2 24 45 1 109 2+2 5 237+2 1+2 1+2 1 25619 1 127 45+3
  4+2 115 24+2 59 48+3 9+2 13 93+3 3+2 1 170+3 31+2 58+2 1+4 2+2 2+3 9 10+2 84+3 7 2 1+4 1+2 1
  101+3 8+2 3 106+3 6 1+4 2 237+3 6+4 2 113+3 8+2 1 109 1+2 6 103 1+2 4 261+3 9 247+6 1+2 4 2 1
  142+3 8+4 4 84 29+2 62 407 14 106 7 2 213+5 4+2 1 350+2 12 48+2 8+2 1 16872+3 3620+55 104+2
  24947+2 6+6 Me:Enclosing_Mark 1160+2 5684 1566+4 1+3 34187+3 Mn:Nonspacing_Mark 768+112 275+5
  265+45 1 1+2 1+2 1 72+11 48+21 16 101+7 2+6 2+2 1+4 35 30+27 91+11 58+9 9 24+4 1+9 1+3 1+5 43+3
  59+9 42+24 1+32 55 1 4+8 4 3+7 10+2 29 58 4+4 8 20+2 26 2+2 57 4+2 4+2 2+3 3 30+2 3 11+2 57 4+5
  1+2 4 20+2 22+6 1 58 2 1+4 8 7+2 11+2 30 61 12 50 3 55 1+3 5+3 1+4 7+2 11+2 29 58 2 6 5+2 20+2
  28+2 57+2 4+4 8 20+2 29 72 7+3 1 90 2+7 12+8 98 2+9 11+7 73+2 27 1 1 55+14 1+5 1+2 5+11 1+36 9
  102+4 1+6 1+2 2+2 25+2 4+3 16+4 13 2+2 6 15 703+3 946+3 29+2 30+2 30+2 64+2 1+7 8 2+11 9 45+3 1
  117+2 34 118+3 4+2 9 6+3 219+2 2 58 1+7 1 1 2+8 6+10 2 48+14 1+16 49+4 48 1+5 1 5 40+9 12+2 32+4
  2+2 1+3 56 1+2 3 1+3 58+8 2+2 152+3 1+13 1+7 4 6 3+2 198+64 720+13 4 3+12 3070+3 141 96+32 554+4
  107+2 30164 4+10 32+2 80+2 272 3 4 25+2 5 151+2 26+18 13 38+8 25+11 46+3 48 2+4 2+2 39 67+6 2+2
  2+2 12 8 47 51 1+3 2+2 5+2 1 42+2 8 238 2 4 20272 737+16 16+16 973 226 149+5 1670+3 1+2 5+4 40+3
  4 165+2 573+4 65+5 317+2 79+4 70+11 49+4 123 54+15 41 2+2 10+3 49+4 2+2 7 61+3 36+5 1+8 62 12+2
  52+9 10+4 2 95+3 2 1+2 6 2 157 3+8 21+2 57+2 3 37+7 3+5 70+6 13 1 1 14+2 85+8 2+3 1 23 84+6 1
  4+2 1+2 238+4 6+2 1+2 27+2 85+8 2 1+2 106 1 2+6 1 101 1 2+4 1+5 259+9 1+2 256+2 1 4 144+4 2+2 4
  32+10 40+6 2+4 8 9+6 2+3 46+13 1+2 406+7 1+6 1 82+22 2+7 1+2 1+2 122+6 3 1+2 1+7 1 72+2 3 1
  347+2 11+2 52+5 5 1 23 5349 6+15 11464+12 3+3 2496+5 59+7 1048 63+4 81 19640+2 4705+46 2+23
  544+3 17+8 2+7 30+4 148+3 1979+55 4+50 8 14 22+5 1+15 1360+7 1+17 2+7 1+2 1+5 100 160+7 375 61+4
  508+4 254+2 736+7 109+7 792501+240 Nd:Decimal_Number:digit 48+10 1574+10 134+10 198+10 412+10
  118+10 118+10 118+10 118+10 118+10 118+10 118+10 118+10 118+10 96+10 118+10 70+10 278+10 70+10
  1862+10 38+10 300+10 128+10 166+10 6+10 182+10 86+10 134+10 6+10 35270+10 678+10 38+10 198+10
  22+10 86+10 406+10 21270+10 1414+10 2182+10 6+10 796+10 128+10 60+10 144+10 278+10 342+10 118+10
  374+10 102+10 6+20 76+10 422+10 102+10 662+10 86+10 246+10 70+10 422+10 16854+10 2342+10 86+10
  134+10 534+10 24438+10 2772+50 2368+10 422+10 502+10 247+10 853+10 4758+10 Nl:Letter_Number
  5870+3 2671+35 2+4 3710 25+9 14+3 30379+10 23120+53 460 8 134+5 8234+111 No:Other_Number 178+2 5
  2+3 2357+6 376+6 120+3 133+7 217+7 17+9 433+10 1077+20 1139+10 480 1685 3+6 6+10 198+16 41
  726+60 78+22 630+30 1385 1172+4 138+10 30+8 1+15 32+10 39+15 30064+6 22737+45 65+4 17+2 341+27
  36+4 1332+8 25+7 39+9 75+5 22+6 160+2 2+16 2+46 64+9 52+2 30+3 75+5 104+8 24+8 41+7 330+6 352+31
  158+10 42+4 112+7 134+20 379+20 1349+2 430+9 871+19 851+21 19334+7 798+23 25641+20 12+20 108+25
  5454+9 929+59 1+3 1+4 76+45 1+15 962+13 Pc:Connector_Punctuation 95 8159+2 19 56798+2 24+3 239
  Pd:Dash_Punctuation 45 1372 51 3649 1029 2057+6 3585 2 31+2 4 28 446 19 111 52624+2 37 10 169
  3680 318 Pe:Close_Punctuation 41 51 31 3773 1 1886 2473 55 15 634 1 30 1086 1 1 1 1 1 1 80 32 1
  1 1 1 404 1 1 1 1 1 1 1 1 1 1 64 1 33 1061 1 1 1 44 1 1 1 428 1 1 1 1 3 1 1 1 2+2 52510 217 29 1
  1 1 1 1 1 1 3 17 1 1 170 51 31 2 2 Pf:Final_Punctuation 187 8029 3 28 3528 1 4 2 15 3
  Pi:Initial_Punctuation 171 8044 2+2 2 25 3528 1 4 2 15 3 Po:Other_Punctuation 33+3 1+3 2 1 1+2
  10+2 3+2 27 68 5 14+2 7 702 8 466+6 41 54 2 2 44+2 20+2 1+2 13 1+3 74+4 102 43+14 233+3 54+15 31
  261+2 10 140 120 121 390 12 367 90 10+2 168+15 1 112 74+5 4+2 111+6 171 612+9 773 124+3 71+2
  157+3 1+3 37+6 1+4 313+2 216+2 128+7 1+6 160+2 10+7 28+3 124+4 59+5 62+2 64+8 11 834+2 8+8 8+9
  2+4 2+3 3+11 1 1+10 3226+4 1+2 112 143+2 4+3 2 2+9 1+2 1 2+2 10+5 1+10 2+4 1 1+13 2+3 428+3 57
  189 29698+2 269+3 99 10 115+6 380+4 86+2 40+3 1 49+2 47 97+13 16+2 124+4 126+2 16+2 249 21028+7
  2 22 20+2 2+4 3+3 1+4 7+3 6 1+2 149+3 1+3 2 1 1+2 10+2 3+2 27 36 2+2 410+3 668 48 414 743 199 31
  272+9 38 112+7 66+7 89+4 952+5 44+4 189+7 109+2 1+4 126+4 48+2 79+4 4 13 1+3 88+6 107 298+2 1+2
  114+5 10+2 1 104 250+23 105+3 28+13 76 130+3 252 264+3 155 92+8 83+3 1+5 93+10 215 95+5 42+2
  645+2 74+13 175 1136+5 2940+2 14971+2 133 65+5 8 552+3 295+4 327 19644 7655+5 2931 862+2
  Ps:Open_Punctuation 40 50 31 3774 1 1886 2430 3 38 55 15 634 1 30 1086 1 1 1 1 1 1 80 32 1 1 1 1
  404 1 1 1 1 1 1 1 1 1 1 64 1 33 1061 1 1 1 25 18 1 1 1 428 1 1 1 1 3 1 1 1 2 52513 215 29 1 1 1
  1 1 1 1 3 17 1 1 170 50 31 3 2 Sc:Currency_Symbol 36 125+4 1257 123 498+2 498+2 7 245 263 581
  2459 2244+33 34679 21955 108 154 219+2 3+2 8182+4 49950 2480 Sk:Modifier_Symbol 94 1 71 6 4 3
  521+4 12+14 5+7 1 1+17 117 14+2 1282 5940 1+3 11+3 13+3 13+3 13+2 4252+2 30307+23 9+2 103+2 976
  14+2 20550+17 891 1 162 62487+5 Sm:Math_Symbol 43 16+3 61 1 45 4 37 31 766 527+3 6715 13 39+3
  13+3 139 39+5 6 68+5 5+2 4 2 2 7 31+2 2 1 31+268 32+2 90 30+25 40+6 469 9 54+8 111 336+5 2+31
  10+16 256+131 22+63 4+32 2+258 48+21 2+6 53212 824 1+3 164 16+3 61 1 131 6+4 3489+2 51505 25 31
  25 31 25 31 25 31 25 5932+2 So:Other_Symbol 166 2 4 1 977 266+2 127+2 206 10 19+2 247 515 373
  130+6 1 132 207 41 391+3 15 1+3 2+6 20 1 1 133+8 1+6 1+2 5+4 197+2 752+10 723 722 157+34 353+10
  9+9 1411+2 1+4 1+2 10 1+2 6+6 1 1 1 4 11+2 14 1+2 1 58+2 9+5 2+4 1+2 1+2 1+7 1+31 2+2 1 1+31
  268+8 4+20 2+7 2+81 1+30 25+40 6+72 22+11 81+78 22+183 1+9 1+54 8+111 1+248 44+44 64+256 512+48
  21+2 6+39 2+32 1+105 229+6 357+2 46+26 1+89 12+214 26+16 4 13+2 12 21+2 6+2 336+2 4+10 32+38 9
  16+31 11+30 8 15+32 10+39 15+320 6592+64 22160+55 865+4 10+2 1 573+3 21190+16 127 45+3 484 3 4+2
  13+2 313+9 57+17 2+3 1+13 3 47+45 1658+2 591 3190 2197+8 4+17 19274+4 5 20822 3939+240 16+436
  156+116 60+246 10+39 2+60 5+3 22+2 7+30 4+61 21+66 3 186+87 1193+512 55+4 50+8 1+14 1+2 1736
  2908 129 721+44 4+100 12+15 2+15 1+15 1+37 23+161 56+29 13+44 4+9 7+2 14+6 154+251 5+728 4+17
  3+13 3+119 4+95 6+12 4 15+12 4+56 8+10 6+40 8+30 2+12 4+2 62+340 12+14 2+13 3+10 5+56 7+15 2+11
  6+9 7+147 1+92 Zl:Line_Separator 8232 Zp:Paragraph_Separator 8233 Zs:Space_Separator 32 127 5599
  2431+11 36 47 4000"

/-- The names of the kinds of categories, the code first. -/
def kinds : List (List String) :=
  [["L", "Letter"], ["M", "Mark", "Combining_Mark"], ["N", "Number"],
    ["P", "Punctuation", "punct"], ["S", "Symbol"], ["Z", "Separator"]]

def ofCategories (codes : List String) : CharSet := categories.unionOf codes.contains

def ofKind (kind : String) : CharSet := categories.unionOf fun code => code.startsWith kind

def assigned : CharSet := categories.unionOf fun _ => true

def unassigned : CharSet := assigned.complement

/-- The characters of a general category, of a kind of them or of some group of them. -/
def categorySet? : (name : String) → Option CharSet
  | "any" => some .full
  | "ascii" => some .ascii
  | "assigned" => some assigned
  | "cn" | "unassigned" => some unassigned
  | "c" | "other" => some (unassigned.union (ofKind "C"))
  | "lc" | "casedletter" => some (ofCategories ["Lu", "Ll", "Lt"])
  | name =>
      match kinds.find? fun names => names.any fun known => comparedName known == name with
      | some (kind :: _) => some (ofKind kind)
      | _ => categories.set? name

end Reshape.Text
