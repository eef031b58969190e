/-!
# Folio.Unicode.CaseTable

Letter case: capitals, small letters, and the letters that differ in case
alone.  All numbers are hexadecimal; `a:b` is a single character exchanged for
another, `a+n:b` a run of `n` characters from `a` on, `a*n:b` every second one
of such a run.
-/

namespace Folio.Unicode

/-- Letters with one capital. -/
def capitalData : String :=
  "61+1a:41 b5:39c e0+17:c0 f8+7:d8 ff:178 101*18:100 131:49 133*3:132 13a*8:139 14b*17:14a
   17a*3:179 17f:53 180:243 183*2:182 188:187 18c:18b 192:191 195:1f6 199:198 19a:23d 19b:a7dc
   19e:220 1a1*3:1a0 1a8:1a7 1ad:1ac 1b0:1af 1b4*2:1b3 1b9:1b8 1bd:1bc 1bf:1f7 1c5:1c4 1c6:1c4
   1c8:1c7 1c9:1c7 1cb:1ca 1cc:1ca 1ce*8:1cd 1dd:18e 1df*9:1de 1f2:1f1 1f3:1f1 1f5:1f4 1f9*14:1f8
   223*9:222 23c:23b 23f+2:2c7e 242:241 247*5:246 250:2c6f 251:2c6d 252:2c70 253:181 254:186
   256+2:189 259:18f 25b:190 25c:a7ab 260:193 261:a7ac 263:194 264:a7cb 265:a78d 266:a7aa 268:197
   269:196 26a:a7ae 26b:2c62 26c:a7ad 26f:19c 271:2c6e 272:19d 275:19f 27d:2c64 280:1a6 282:a7c5
   283:1a9 287:a7b1 288:1ae 289:244 28a+2:1b1 28c:245 292:1b7 29d:a7b2 29e:a7b0 345:399 371*2:370
   377:376 37b+3:3fd 3ac:386 3ad+3:388 3b1+11:391 3c2:3a3 3c3+9:3a3 3cc:38c 3cd+2:38e 3d0:392
   3d1:398 3d5:3a6 3d6:3a0 3d7:3cf 3d9*c:3d8 3f0:39a 3f1:3a1 3f2:3f9 3f3:37f 3f5:395 3f8:3f7
   3fb:3fa 430+20:410 450+10:400 461*11:460 48b*1b:48a 4c2*7:4c1 4cf:4c0 4d1*30:4d0 561+26:531
   10d0+2b:1c90 10fd+3:1cbd 13f8+6:13f0 1c80:412 1c81:414 1c82:41e 1c83+2:421 1c85:422 1c86:42a
   1c87:462 1c88:a64a 1c8a:1c89 1d79:a77d 1d7d:2c63 1d8e:a7c6 1e01*4b:1e00 1e9b:1e60 1ea1*30:1ea0
   1f00+8:1f08 1f10+6:1f18 1f20+8:1f28 1f30+8:1f38 1f40+6:1f48 1f51*4:1f59 1f60+8:1f68 1f70+2:1fba
   1f72+4:1fc8 1f76+2:1fda 1f78+2:1ff8 1f7a+2:1fea 1f7c+2:1ffa 1fb0+2:1fb8 1fbe:399 1fd0+2:1fd8
   1fe0+2:1fe8 1fe5:1fec 214e:2132 2170+10:2160 2184:2183 24d0+1a:24b6 2c30+30:2c00 2c61:2c60
   2c65:23a 2c66:23e 2c68*3:2c67 2c73:2c72 2c76:2c75 2c81*32:2c80 2cec*2:2ceb 2cf3:2cf2
   2d00+26:10a0 2d27:10c7 2d2d:10cd a641*17:a640 a681*e:a680 a723*7:a722 a733*1f:a732 a77a*2:a779
   a77f*5:a77e a78c:a78b a791*2:a790 a794:a7c4 a797*a:a796 a7b5*8:a7b4 a7c8*2:a7c7 a7cd*8:a7cc
   a7f6:a7f5 ab53:a7b3 ab70+50:13a0 ff41+1a:ff21 10428+28:10400 104d8+24:104b0 10597*13:10570
   10598*5:10571 105a4*7:1057d 105b4*3:1058d 105bc:10595 10cc0+33:10c80 10d70+16:10d50
   118c0+20:118a0 16e60+20:16e40 16ebb+19:16ea0 1e922+22:1e900"

/-- Letters whose capital form has several letters. -/
def capitalExpandedData : String :=
  "df:53.53 149:2bc.4e 1f0:4a.30c 390:399.308.301 3b0:3a5.308.301 587:535.552 1e96:48.331
   1e97:54.308 1e98:57.30a 1e99:59.30a 1e9a:41.2be 1f50:3a5.313 1f52:3a5.313.300 1f54:3a5.313.301
   1f56:3a5.313.342 1f80:1f08.399 1f81:1f09.399 1f82:1f0a.399 1f83:1f0b.399 1f84:1f0c.399
   1f85:1f0d.399 1f86:1f0e.399 1f87:1f0f.399 1f88:1f08.399 1f89:1f09.399 1f8a:1f0a.399
   1f8b:1f0b.399 1f8c:1f0c.399 1f8d:1f0d.399 1f8e:1f0e.399 1f8f:1f0f.399 1f90:1f28.399
   1f91:1f29.399 1f92:1f2a.399 1f93:1f2b.399 1f94:1f2c.399 1f95:1f2d.399 1f96:1f2e.399
   1f97:1f2f.399 1f98:1f28.399 1f99:1f29.399 1f9a:1f2a.399 1f9b:1f2b.399 1f9c:1f2c.399
   1f9d:1f2d.399 1f9e:1f2e.399 1f9f:1f2f.399 1fa0:1f68.399 1fa1:1f69.399 1fa2:1f6a.399
   1fa3:1f6b.399 1fa4:1f6c.399 1fa5:1f6d.399 1fa6:1f6e.399 1fa7:1f6f.399 1fa8:1f68.399
   1fa9:1f69.399 1faa:1f6a.399 1fab:1f6b.399 1fac:1f6c.399 1fad:1f6d.399 1fae:1f6e.399
   1faf:1f6f.399 1fb2:1fba.399 1fb3:391.399 1fb4:386.399 1fb6:391.342 1fb7:391.342.399 1fbc:391.399
   1fc2:1fca.399 1fc3:397.399 1fc4:389.399 1fc6:397.342 1fc7:397.342.399 1fcc:397.399
   1fd2:399.308.300 1fd3:399.308.301 1fd6:399.342 1fd7:399.308.342 1fe2:3a5.308.300
   1fe3:3a5.308.301 1fe4:3a1.313 1fe6:3a5.342 1fe7:3a5.308.342 1ff2:1ffa.399 1ff3:3a9.399
   1ff4:38f.399 1ff6:3a9.342 1ff7:3a9.342.399 1ffc:3a9.399 fb00:46.46 fb01:46.49 fb02:46.4c
   fb03:46.46.49 fb04:46.46.4c fb05:53.54 fb06:53.54 fb13:544.546 fb14:544.535 fb15:544.53b
   fb16:54e.546 fb17:544.53d"

/-- Letters with one small letter. -/
def smallData : String :=
  "41+1a:61 c0+17:e0 d8+7:f8 100*18:101 132*3:133 139*8:13a 14a*17:14b 178:ff 179*3:17a 181:253
   182*2:183 186:254 187:188 189+2:256 18b:18c 18e:1dd 18f:259 190:25b 191:192 193:260 194:263
   196:269 197:268 198:199 19c:26f 19d:272 19f:275 1a0*3:1a1 1a6:280 1a7:1a8 1a9:283 1ac:1ad
   1ae:288 1af:1b0 1b1+2:28a 1b3*2:1b4 1b7:292 1b8:1b9 1bc:1bd 1c4:1c6 1c5:1c6 1c7:1c9 1c8:1c9
   1ca:1cc 1cb*9:1cc 1de*9:1df 1f1:1f3 1f2*2:1f3 1f6:195 1f7:1bf 1f8*14:1f9 220:19e 222*9:223
   23a:2c65 23b:23c 23d:19a 23e:2c66 241:242 243:180 244:289 245:28c 246*5:247 370*2:371 376:377
   37f:3f3 386:3ac 388+3:3ad 38c:3cc 38e+2:3cd 391+11:3b1 3a3+9:3c3 3cf:3d7 3d8*c:3d9 3f4:3b8
   3f7:3f8 3f9:3f2 3fa:3fb 3fd+3:37b 400+10:450 410+20:430 460*11:461 48a*1b:48b 4c0:4cf 4c1*7:4c2
   4d0*30:4d1 531+26:561 10a0+26:2d00 10c7:2d27 10cd:2d2d 13a0+50:ab70 13f0+6:13f8 1c89:1c8a
   1c90+2b:10d0 1cbd+3:10fd 1e00*4b:1e01 1e9e:df 1ea0*30:1ea1 1f08+8:1f00 1f18+6:1f10 1f28+8:1f20
   1f38+8:1f30 1f48+6:1f40 1f59*4:1f51 1f68+8:1f60 1f88+8:1f80 1f98+8:1f90 1fa8+8:1fa0 1fb8+2:1fb0
   1fba+2:1f70 1fbc:1fb3 1fc8+4:1f72 1fcc:1fc3 1fd8+2:1fd0 1fda+2:1f76 1fe8+2:1fe0 1fea+2:1f7a
   1fec:1fe5 1ff8+2:1f78 1ffa+2:1f7c 1ffc:1ff3 2126:3c9 212a:6b 212b:e5 2132:214e 2160+10:2170
   2183:2184 24b6+1a:24d0 2c00+30:2c30 2c60:2c61 2c62:26b 2c63:1d7d 2c64:27d 2c67*3:2c68 2c6d:251
   2c6e:271 2c6f:250 2c70:252 2c72:2c73 2c75:2c76 2c7e+2:23f 2c80*32:2c81 2ceb*2:2cec 2cf2:2cf3
   a640*17:a641 a680*e:a681 a722*7:a723 a732*1f:a733 a779*2:a77a a77d:1d79 a77e*5:a77f a78b:a78c
   a78d:265 a790*2:a791 a796*a:a797 a7aa:266 a7ab:25c a7ac:261 a7ad:26c a7ae:26a a7b0:29e a7b1:287
   a7b2:29d a7b3:ab53 a7b4*8:a7b5 a7c4:a794 a7c5:282 a7c6:1d8e a7c7*2:a7c8 a7cb:264 a7cc*8:a7cd
   a7dc:19b a7f5:a7f6 ff21+1a:ff41 10400+28:10428 104b0+24:104d8 10570*13:10597 10571*5:10598
   1057d*7:105a4 1058d*3:105b4 10595:105bc 10c80+33:10cc0 10d50+16:10d70 118a0+20:118c0
   16e40+20:16e60 16ea0+19:16ebb 1e900+22:1e922"

/-- Letters whose small form has several letters. -/
def smallExpandedData : String :=
  "130:69.307"

/-- Letters and the letter that stands for them when case does not count. -/
def foldData : String :=
  "41+1a:61 b5:3bc c0+17:e0 d8+7:f8 100*18:101 132*3:133 139*8:13a 14a*17:14b 178:ff 179*3:17a
   17f:73 181:253 182*2:183 186:254 187:188 189+2:256 18b:18c 18e:1dd 18f:259 190:25b 191:192
   193:260 194:263 196:269 197:268 198:199 19c:26f 19d:272 19f:275 1a0*3:1a1 1a6:280 1a7:1a8
   1a9:283 1ac:1ad 1ae:288 1af:1b0 1b1+2:28a 1b3*2:1b4 1b7:292 1b8:1b9 1bc:1bd 1c4:1c6 1c5:1c6
   1c7:1c9 1c8:1c9 1ca:1cc 1cb*9:1cc 1de*9:1df 1f1:1f3 1f2*2:1f3 1f6:195 1f7:1bf 1f8*14:1f9 220:19e
   222*9:223 23a:2c65 23b:23c 23d:19a 23e:2c66 241:242 243:180 244:289 245:28c 246*5:247 345:3b9
   370*2:371 376:377 37f:3f3 386:3ac 388+3:3ad 38c:3cc 38e+2:3cd 391+11:3b1 3a3+9:3c3 3c2:3c3
   3cf:3d7 3d0:3b2 3d1:3b8 3d5:3c6 3d6:3c0 3d8*c:3d9 3f0:3ba 3f1:3c1 3f4:3b8 3f5:3b5 3f7:3f8
   3f9:3f2 3fa:3fb 3fd+3:37b 400+10:450 410+20:430 460*11:461 48a*1b:48b 4c0:4cf 4c1*7:4c2
   4d0*30:4d1 531+26:561 10a0+26:2d00 10c7:2d27 10cd:2d2d 13f8+6:13f0 1c80:432 1c81:434 1c82:43e
   1c83+2:441 1c85:442 1c86:44a 1c87:463 1c88:a64b 1c90+2b:10d0 1cbd+3:10fd 1e00*4b:1e01 1e9b:1e61
   1e9e:df 1ea0*30:1ea1 1f08+8:1f00 1f18+6:1f10 1f28+8:1f20 1f38+8:1f30 1f48+6:1f40 1f59*4:1f51
   1f68+8:1f60 1f88+8:1f80 1f98+8:1f90 1fa8+8:1fa0 1fb8+2:1fb0 1fba+2:1f70 1fbc:1fb3 1fbe:3b9
   1fc8+4:1f72 1fcc:1fc3 1fd8+2:1fd0 1fda+2:1f76 1fe8+2:1fe0 1fea+2:1f7a 1fec:1fe5 1ff8+2:1f78
   1ffa+2:1f7c 1ffc:1ff3 2126:3c9 212a:6b 212b:e5 2132:214e 2160+10:2170 2183:2184 24b6+1a:24d0
   2c00+30:2c30 2c60:2c61 2c62:26b 2c63:1d7d 2c64:27d 2c67*3:2c68 2c6d:251 2c6e:271 2c6f:250
   2c70:252 2c72:2c73 2c75:2c76 2c7e+2:23f 2c80*32:2c81 2ceb*2:2cec 2cf2:2cf3 a640*17:a641
   a680*e:a681 a722*7:a723 a732*1f:a733 a779*2:a77a a77d:1d79 a77e*5:a77f a78b:a78c a78d:265
   a790*2:a791 a796*a:a797 a7aa:266 a7ab:25c a7ac:261 a7ad:26c a7ae:26a a7b0:29e a7b1:287 a7b2:29d
   a7b3:ab53 a7b4*8:a7b5 a7c4:a794 a7c5:282 a7c6:1d8e a7c7*2:a7c8 a7d0:a7d1 a7d6*2:a7d7 a7f5:a7f6
   ab70+50:13a0 ff21+1a:ff41 10400+28:10428 104b0+24:104d8 10570*13:10597 10571*5:10598
   1057d*7:105a4 1058d*3:105b4 10595:105bc 10c80+33:10cc0 118a0+20:118c0 16e40+20:16e60
   1e900+22:1e922"

end Folio.Unicode
