/-!
# Folio.Charset.KoreanTable

Characters of the Korean encoding.
-/

namespace Folio.Charset

/-- Characters of two bytes. The characters in the order of their
pointers, hexadecimal: `a` a character, `a+n` a run of `n` characters from `a`
on, `-n` a gap of `n` pointers. -/
def koreanData : String :=
  "ac02+2 ac05+2 ac0b+5 ac18 ac1e+2 ac21+3 ac25+7 ac2e ac32+3 -6 ac35+3 ac3a+2 ac3d+3 ac41+a ac4c
   ac4e+6 ac55 -6 ac56+2 ac59+3 ac5d+13 ac72+2 ac75+2 ac79 ac7b+5 ac82 ac87+2 ac8d+3 ac91+3 ac95+7
   ac9e aca2+6 acab acad+2 acb1+7 acba acbe+3 acc2+2 acc5+3 acc9+3 accd+8 acd6 acd8+8 ace2+2 ace5+2
   ace9 aceb aced+2 acf2 acf4 acf7+5 acfe+2 ad01+3 ad05 ad07+5 ad0e ad10 ad12+6 ad19+3 ad1d+3
   ad21+8 ad2a+2 ad2e+6 -6 ad36+2 ad39+3 ad3d+7 ad46 ad48 ad4a+6 ad51+3 ad55+3 -6 ad59+8 ad62
   ad64+8 ad6e+2 ad71+2 ad77+4 ad7e ad80 ad83+5 ad8a+2 ad8d+3 ad91+b ad9e+6 ada5+12 adb8+8 adc2+2
   adc5+3 adc9+7 add2 add4+8 addd+3 ade1+3 ade5+13 adfa+2 adfd+2 ae02+6 ae0a ae0c ae0e+6 ae15+8 -6
   ae1d+13 ae32+2 ae35+2 ae39 ae3b+2 -6 ae3d+3 ae42 ae44 ae47+3 ae4b ae4f ae51+3 ae55 ae57+5 ae5e
   ae62+3 ae66+2 ae6a+2 ae6d+3 ae71+7 ae7a ae7e+6 ae86+6 ae8d+2f aebf aec1+3 aec5+7 aece aed2+6
   aeda+2 aedd+b aee9+2 aeec aeee+6 aef5+3 aef9+3 aefd+9 -6 af06 af09+4 af0e+2 af11+13 -6 af24+8
   af2e+2 af31 af33 af35+7 af3e af40 af44+4 af4a+6 af51+b af5e+6 af66+13 af7a+6 af81+3 af85+3
   af89+7 af92+3 af96+6 af9d+1b afba+2 afbd+3 afc1+6 afca afcc afcf+5 afd5+7 afdd+5 -6 afe2+6
   afea+6 aff2+2 aff5+3 aff9+7 b002+2 -6 b005+7 b00d+3 b011+3 b015+7 b01e+a b029+1b b046+2 b049
   b04b b04d b04f+4 b056 b058 b05a+3 b05e+1e b07e+2 b081+3 b085+7 b08e b090 b092+6 b09b b09d+2
   b0a3+5 b0aa b0b0 b0b2 b0b6+2 b0b9+3 b0bd+7 b0c6 b0ca+6 b0d2 -6 b0d3 b0d5+3 b0d9+7 b0e1+4 b0e6+b
   -6 b0f1+17 b10a b10d+3 b111 b114+4 b11a b11e+5 b126+2 b129+3 b12d+7 b136 b13a+6 b142+2 b145+3
   b149+7 b152+2 b156+2 b159+3 b15d+3 b161+17 b17a+2 b17d+3 b181 b183+5 b18a b18c b18e+4 b195+3
   b199+3 b19d+b b1a9+10 -6 b1b9+13 b1cd+3 b1d1+3 b1d5 -6 b1d6+6 b1de b1e0+8 b1ea+2 b1ed+3 b1f1+8
   b1fa b1fc b1fe+6 b206+2 b209+2 b20d+7 b216 b218 b21a+6 b221+13 b235+7 b23d+1b b259+3 b25d+3
   b261+7 b26a+a b276+6 b27d+7 b286+3 b28a+5 -6 b28f b292+2 b295+3 b29b+5 b2a2 b2a4 b2a7+3 b2ab
   b2ad+3 b2b1+3 b2b5+3 -6 b2b8+10 b2ca+2 b2cd+3 b2d1 b2d3+5 b2da b2dc b2de+4 b2e3 b2e7 b2e9+2
   b2f0+3 b2f6 b2fc+3 b302+2 b305+3 b309+7 b312 b316+6 b31d+37 b357 b359+2 b35d b360+4 b366 b368
   b36a b36c+2 b36f b372+2 b375+3 b379+7 b382 b386+6 b38d -6 b38e+2 b391+3 b395+b b3a2+6 b3a9+3
   b3ad -6 b3ae+16 b3c6+2 b3c9+2 b3cd b3cf b3d1+3 b3d6 b3d8 b3da b3dc b3de+2 b3e1+3 b3e5+3 b3e9+13
   b3fd+13 b411+7 b419+3 b41d+3 b421+7 b42a b42c+8 b435+1b b452+2 b455+3 b459+7 b462 b464 b466 -6
   b467+5 b46d+13 b481+2 -6 b483+5 b489+14 b49e+6 b4a5+3 b4a9+3 b4ad+8 b4b6 b4b8 b4ba+6 b4c1+3
   b4c5+3 b4c9+7 b4d1+4 b4d6+6 b4de+2 b4e1+2 b4e5 b4e7+5 b4ee b4f0 b4f2+6 b4f9+1b b516+2 b519+2
   b51d+7 b526 b52b+5 b532+2 b535+3 b539+7 b542 b546 -6 b547+4 b54e+2 b551+3 b555+7 b55e b562+9 -6
   b56b+35 b5a2+2 b5a5+3 b5a9 b5ac+4 b5b2 b5b6+5 b5be+2 b5c1+3 b5c5+7 b5ce b5d2+6 b5d9+13 b5ed+23
   b612+2 b615+3 b619+5 -6 b61e+7 b626+6 b62d+7 b635+6 -6 b63b+d b649+1b b665+3 b669+33 b69e+2
   b6a1+3 b6a5+6 b6ad+4 b6b2+22 b6d5+9 -6 b6de+12 b6f1+3 b6f5+3 b6f9+2 -6 b6fb+5 b702+3 b706+22
   b72a+2 b72d+2 b731+7 b73a b73c+8 b745+3 b749+3 b74d+7 b756+a b761+3 b765+3 b769+7 b772 b774
   b776+6 b77e+2 b781+3 b785+7 b78e b793+3 b79a+2 b79d+3 b7a1+7 b7aa b7ae+6 b7b6+2 b7b9+9 -6 b7c2+5
   b7c8 b7ca+14 -6 b7de+e b7ee+2 b7f1+3 b7f5+7 b7fe b802+5 b80a+2 b80d+3 b811+7 b81a b81c b81e+6
   b826+2 b829+3 b82d+7 b836 b83a+6 b841+3 b845+c b852 b854+8 b85e+2 b861+3 b865+7 b86e b870 b872+6
   b879+3 b87d+10 b88e+12 -6 b8a0+8 b8a9+7 b8b1+3 b8b5+3 b8b9+5 -6 b8be+2 b8c2 b8c4 b8c6+6 b8cd+3
   b8d1+3 b8d5+8 b8de b8e0 b8e2+6 b8ea+2 b8ed+3 b8f1+7 b8fa b8fc b8fe+6 b905+13 b919+7 b921+1b
   b93e+2 b941+3 b945+7 b94d+2 b950 b952+6 b95a+2 b95d+3 b961+7 b96a b96c b96e+6 b976+2 b979+3 b97d
   -6 b97e+6 b986 b988 b98b+2 b98f+10 -6 b99f+d b9ae+2 b9b1+3 b9b5+7 b9be b9c0 b9c2+6 b9ca+2 b9cd
   b9d3+5 b9da b9dc b9df+2 b9e2 b9e6+2 b9e9+3 b9ed+7 b9f6 b9fb+5 ba02+6 ba09+c ba16+22 ba3a+2
   ba3d+3 ba41 ba43+5 ba4a ba4c ba4f+4 ba56+2 ba59+3 ba5d+7 ba66 ba6a+6 -6 ba72+2 ba75+3 ba79+a
   ba86 ba88+4 ba8d+6 -6 ba93+15 baaa baad+3 bab1 bab3+5 baba babc babe+6 bac5+3 bac9+f bada+22
   bafd+3 bb01+3 bb05+8 bb0e bb10 bb12+6 bb19+3 bb1d+3 bb21+8 bb2a bb2c+8 bb37 bb39+2 bb3f+5 bb46
   bb48 bb4a+3 bb4e bb51+2 -6 bb53 bb55+3 bb59+8 bb62 bb64+8 bb6d+5 -6 bb72+16 bb89+3 bb8d+3
   bb91+13 bba5+3 bba9+3 bbad+7 bbb5+2 bbb8+8 bbc1+3 bbc5+3 bbc9+7 bbd1+2 bbd4+24 bbfa+2 bbfd+2
   bc01 bc03+5 bc0a bc0e bc10 bc12+2 bc19+2 bc20+4 bc26 bc28 bc2a+3 bc2e+2 bc32+2 bc35 -6 bc36+2
   bc39+7 bc42 bc46+3 bc4a+2 bc4e+2 bc51+9 -6 bc5a+3 bc5e+26 bc86+2 bc89+2 bc8d bc8f+5 bc96 bc98
   bc9b+5 bca2+2 bca5+2 bca9+7 bcb2 bcb6+6 bcbe+2 bcc1+3 bcc5+8 bcce bcd2+3 bcd6+2 bcd9+3 bcdd+17
   bcf7 bcf9+3 bcfd+7 bd06 bd08 bd0a+6 bd11+3 bd15+9 -6 bd1e+6 bd25+7 bd2d+d -6 bd3a+6 bd41+7
   bd4a+2 bd4d+3 bd51+7 bd5a+a bd65+3 bd69+17 bd82+2 bd85+2 bd8b+5 bd92 bd94 bd96+3 bd9b bd9d+7
   bda5+b bdb1+7 bdb9+1b bdd6+2 bdd9+3 bddd+c bdea+6 bdf1 -6 bdf2+2 bdf5+3 bdf9+7 be01+2 be04
   be06+6 be0e+2 be11+3 -6 be15+7 be1e be20+24 be46+2 be49+3 be4d be4f+5 be56 be58 be5c+4 be62+2
   be65+3 be69 be6b+5 be72 be76+5 be7e+2 be81+3 be85+7 be8e be92+6 be9a+e bea9+27 bed2+2 -6 bed5+2
   bed9+7 bee1+2 bee6+6 beed+9 -6 bef6+b bf02+6 bf0a+e bf1a bf1e+22 bf42+2 bf45+3 bf49+7 bf52+3
   bf56+3e bf95+9 -6 bf9e+12 bfb1+8 -6 bfb9+c bfc6+6 bfce+2 bfd1+3 bfd5+7 bfdd+2 bfe0 bfe2+5a
   c03d+14 c052+6 c059+3 -6 c05d+3 c061+7 c06a+10 -6 c07a+16 c092+2 c095+3 c099+7 c0a2 c0a4 c0a6+6
   c0ae c0b1+2 c0b7+5 c0be c0c2+3 c0c6+2 c0ca+2 c0cd+3 c0d1+7 c0da c0de+6 c0e6+2 c0e9+3 c0ed+7 c0f6
   c0f8 c0fa+6 c101+3 c105+3 c109+7 c111+4 c116+6 c121+2 c125 c128+4 c12e c132+4 c137 c13a+2 c13d+3
   c141+7 c14a c14e+6 c156+2 -6 c159+3 c15d+7 c166 c16a+6 c171+3 c175+3 c179+3 -6 c17c+9 c186+6
   c18f c191+3 c195 c197+5 c19e c1a0 c1a2+3 c1a6+2 c1aa+2 c1ad+3 c1b1+c c1be+6 c1c5+3 c1c9+3 c1cd+7
   c1d5+2 c1d9+7 c1e1+3 c1e5+3 c1e9+7 c1f2 c1f4+8 c1fe+2 c201+3 c205+7 c20e c210 c212+6 c21a+2
   c21d+2 c221+7 c22a c22c c22e c230 c233 c235+11 -6 c246+2 c249+7 c252+2 c255+3 c259+7 c261+4 c266
   -6 c267+5 c26e+2 c271+3 c275+7 c27e c280 c282+6 c28a+6 c291+7 c299+2 c29c c29e+6 c2a6+2 c2a9+3
   c2ae+6 c2b6 c2b8 c2ba+22 c2de+2 c2e1+2 c2e5+6 c2ee c2f0 c2f2+4 c2f7 c2fa c2fd+3 c301+7 c30a+2
   c30e+5 c316+2 c319+3 c31d+7 c326+2 c32a+9 -6 c333+12 c346+8 -6 c34e+1a c36a+2 c36d+3 c371 c373+5
   c37a+2 c37e+6 c385+3 c389+3 c38d+33 c3c1+17 c3da+2 c3dd+2 c3e1 c3e3+5 c3ea+3 c3ee+6 c3f6+2
   c3f9+6 -6 c3ff+9 c409+7 c411+a -6 c41b+9 c425+7 c42d+3 c431+3 c435+7 c43e+a c449+1b c466+2
   c469+3 c46d+7 c476+3 c47a+6 c481+13 c495+7 c49d+1b c4b9+3 c4bd+9 -6 c4c6+1a -6 c4e0+9 c4ea+6
   c4f2+2 c4f5+3 c4f9 c4fb+4 c502+a c50d+3 c511+3 c515+7 c51d+b c52a+2 c52d+3 c531+7 c53a c53c
   c53e+6 c546+2 c54b c54f+4 c556 c55a+3 c55f c562+2 c565+3 c569+7 c572 c576+6 c57e+2 c581+3 c585+2
   c588+4 c58e c590 c592+3 c596 c599+3 c59d+3 c5a1+8 c5aa+a c5b6 -6 c5b7 c5ba c5bf+5 c5cb c5cd c5cf
   c5d2+2 c5d5+3 c5d9+7 c5e2 c5e4 c5e6+2 -6 c5e8+4 c5ef c5f1+3 c5f5 c5f8+4 c602+3 c609+3 c60d+3
   c611+7 c61a c61d+7 c626+2 c629+3 c62f c631+2 c636 c638 c63a c63c+4 c642+2 c645+3 c649+7 c652
   c656+6 c65e+2 c661+b c66d+2 c670 c672+6 c67a+2 c67d+3 c681+7 c68a c68c c68e+6 c696+2 c699+3
   c69d+7 c6a6 c6a8 c6aa+6 c6b2+2 c6b5+3 c6bb+5 c6c2 c6c4 c6c6+6 c6ce -6 c6cf c6d1+3 c6d5+7 c6de+2
   c6e2+6 c6ea+2 c6ed+3 c6f1+2 -6 c6f3+5 c6fa+3 c6fe+6 c706+2 c709+3 c70d+7 c716 c718 c71a+6 c722+2
   c725+3 c729+7 c732 c734 c736 c738+4 c73e+2 c741+3 c745+5 c74b c74e c750 c759+3 c75d+3 c761+7
   c769+2 c76c+8 c776+2 c779+3 c77f+4 c786 c78b+3 c78f c792+2 c795 c799 c79b+5 c7a2 c7a7+5 c7ae+2
   c7b1+3 c7b5+7 c7be c7c2+6 c7ca+2 c7cd c7cf c7d1+7 c7d9+4 -6 c7de+6 c7e5+3 c7e9+3 c7ed+e -6
   c7fb+5 c802+2 c805+3 c809 c80b+5 c812 c814 c817+5 c81e+2 c821+3 c825+7 c82e c830 c832+6 c839+3
   c83d+3 c841+7 c84a+2 c84e+6 c855+1b c872+2 c875+3 c879 c87b+5 c882 c884 c888+3 c88e+6 c895+8
   c89e c8a0 c8a2+6 c8a9+13 c8be+4 -6 c8c2+2 c8c5+3 c8c9+3 c8cd+7 c8d6 c8d8 c8da+6 c8e2+2 c8e5 -6
   c8e6+f c8f6+6 c8fe+2 c901+3 c907+5 c90e 3000+3 b7 2025+2 a8 3003 ad 2015 2225 ff3c 223c 2018+2
   201c+2 3014+2 3008+a b1 d7 f7 2260 2264+2 221e 2234 b0 2032+2 2103 212b ffe0+2 ffe5 2642 2640
   2220 22a5 2312 2202 2207 2261 2252 a7 203b 2606 2605 25cb 25cf 25ce 25c7 25c6 25a1 25a0 25b3
   25b2 25bd 25bc 2192 2190+2 2193+2 3013 226a+2 221a 223d 221d 2235 222b+2 2208 220b 2286+2 2282+2
   222a 2229 2227+2 ffe2 c910 c912+6 c919+13 -6 c92d+7 c935+13 -6 c948+8 c952+2 c955+3 c959+7 c962
   c964+8 c96d+3 21d2 21d4 2200 2203 b4 ff5e 2c7 2d8 2dd 2da 2d9 b8 2db a1 bf 2d0 222e 2211 220f a4
   2109 2030 25c1 25c0 25b7 25b6 2664 2660+2 2665 2667 2663 2299 25c8 25a3 25d0+2 2592 25a4+2 25a8
   25a7 25a6 25a9 2668 260f 260e 261c 261e b6 2020+2 2195 2197 2199 2196 2198 266d 2669+2 266c 327f
   321c 2116 33c7 2122 33c2 33d8 2121 20ac ae -17 c971+3 c975+7 c97d+b c98a+2 c98d+3 -6 c991+7 c99a
   c99c c99e+11 -6 c9af+11 c9c2+2 c9c5+2 c9c9 c9cb+5 c9d2 c9d4 c9d7+2 c9db ff01+3b ffe6 ff3d+21
   ffe3 c9de+2 c9e1 c9e3 c9e5+2 c9e8+4 c9ee c9f2+6 c9fa+2 c9fd+3 ca01+4 -6 ca05+3 ca0a ca0e+6
   ca15+3 ca19+d -6 ca26+3 ca2a+1d 3131+5e ca47+5 ca4e+2 ca51+3 ca55+7 ca5e ca62+6 ca69+2 -6
   ca6b+12 ca7e+6 ca85+2 -6 ca87+11 ca99+f 2170+a -5 2160+a -7 391+11 3a3+7 -8 3b1+11 3c3+7 -6
   caa8+14 cabe+2 cac1+3 cac5 -6 cac6+6 cace cad0 cad2 cad4+4 cada+6 cae1+7 -6 cae8+4 caed+7
   caf5+13 cb09+2 2500 2502 250c 2510 2518 2514 251c 252c 2524 2534 253c 2501 2503 250f 2513 251b
   2517 2523 2533 252b 253b 254b 2520 252f 2528 2537 253f 251d 2530 2525 2538 2542 2512 2511 251a
   2519 2516 2515 250e 250d 251e+2 2521+2 2526+2 2529+2 252d+2 2531+2 2535+2 2539+2 253d+2 2540+2
   2543+8 -1a cb0b+5 cb11+3 cb15+3 cb19+7 cb22+8 -6 cb2a+17 cb42+3 -6 cb45+3 cb4a+2 cb4d+3 cb51+7
   cb5a+3 cb5e+6 cb65+8 3395+3 2113 3398 33c4 33a3+4 3399+a 33ca 338d+3 33cf 3388+2 33c8 33a7+2
   33b0+a 3380+5 33ba+6 3390+5 2126 33c0+2 338a+3 33d6 33c5 33ad+3 33db 33a9+4 33dd 33d0 33d3 33c3
   33c9 33dc 33c6 -f cb6d+b cb7a+f -6 cb89+13 cb9d+7 -6 cba4+14 cbb9+c c6 d0 aa 126 -1 132 -1 13f
   141 d8 152 ba de 166 14a -1 3260+1c 24d0+1a 2460+f bd 2153+2 bc be 215b+4 cbc5+f cbd5+b -6
   cbe0+4 cbe5+2 cbe8 cbea+13 -6 cbfd+f cc0e+2 cc11+3 cc15+7 cc1e+3 cc23+2 e6 111 f0 127 131 133
   138 140 142 f8 153 df fe 167 14b 149 3200+1c 249c+1a 2474+f b9 b2+2 2074 207f 2081+4 cc25+2
   cc2a+2 cc2d cc2f cc31+7 cc3a cc3f+5 cc46+2 cc49+3 cc4d+2 -6 cc4f+5 cc56 cc5a+6 cc61+3 cc65 cc67
   cc69+7 cc71+2 -6 cc73+2 cc76+1e 3041+53 -b cc94+4 cc9a+2 cc9d+3 cca1+7 ccaa ccae+6 ccb6+2 ccb9
   -6 ccba+2 ccbd+7 ccc6 ccc8 ccca+6 ccd1+3 ccd5+6 -6 ccdb+9 cce5+7 cced+3 ccf1+d 30a1+56 -8 ccfe+3
   cd02+6 cd0a+2 cd0d+3 cd11+7 cd1a cd1c cd1e+3 -6 cd21+3 cd25+3 cd29+3 cd2d+c cd3a+5 -6 cd3f+1d
   cd5d+3 410+6 401 416+1a -f 430+6 451 436+1a -d cd61+3 cd65+7 cd6e cd70 cd72+6 cd79+8 -6 cd81+7
   cd89+b cd96+2 cd99+3 cd9d+3 -6 cda0+4 cda6 cda8 cdaa+6 cdb1+13 cdc5 -5e cdc6+6 cdcd+3 cdd1+11 -6
   cde2+6 cde9+3 cded+3 cdf1+7 cdfa cdfc cdfe+5 -6 ce03 ce05+3 ce09+3 ce0d+7 ce15+4 ce1a+6 ce22+2
   ce25+3 ce29+3 -5e ce2c+4 ce32 ce34 ce36+14 -6 ce4a+e ce5a+2 ce5d+2 ce62+6 ce6a ce6c -6 ce6e+6
   ce76+2 ce79+3 ce7d+7 ce86 ce88 ce8a+6 ce92+2 ce95+3 ce99 -5e ce9a+6 cea2 cea6+6 ceae+d -6 cebb+6
   cec2+14 -6 ced6+e cee6+2 cee9+2 ceed+7 cef6 cefa+6 ac00+2 ac04 ac07+4 ac10+8 ac19+5 ac20 ac24
   ac2c+2 ac2f+3 ac38+2 ac3c ac40 ac4b ac4d ac54 ac58 ac5c ac70+2 ac74 ac77+2 ac7a ac80+2 ac83+4
   ac89+4 ac90 ac94 ac9c+2 ac9f+3 aca8+3 acac acaf+2 acb8+2 acbb+3 acc1 acc4 acc8 accc acd5 acd7
   ace0+2 ace4 ace7+2 acea acec acef+3 acf3 acf5+2 acfc+2 ad00 ad04 ad06 cf02+2 cf05+3 cf09+7 cf12
   cf14 cf16+6 cf1d+3 cf21+3 -6 cf25+7 cf2e cf32+6 cf39+c -6 cf45+f cf56+2 cf59+3 cf5d+7 cf66 cf68
   cf6a+3 ad0c+2 ad0f ad11 ad18 ad1c ad20 ad29 ad2c+2 ad34+2 ad38 ad3c ad44+2 ad47 ad49 ad50 ad54
   ad58 ad61 ad63 ad6c+2 ad70 ad73+4 ad7b+3 ad7f ad81+2 ad88+2 ad8c ad90 ad9c+2 ada4 adb7 adc0+2
   adc4 adc8 add0+2 add3 addc ade0 ade4 adf8+2 adfc adff+3 ae08+2 ae0b ae0d ae14 ae30+2 ae34 ae37+2
   ae3a ae40+2 ae43 ae45+2 ae4a ae4c+3 ae50 ae54 ae56 ae5c+2 ae5f+3 ae65 ae68+2 ae6c ae70 ae78
   cf6d+3 cf72+2 cf75+3 cf79+7 cf81+4 cf86+6 cf8d -6 cf8e+13 cfa2+6 cfa9 -6 cfaa+6 cfb1+13 cfc5+7
   ae79 ae7b+3 ae84+2 ae8c aebc+3 aec0 aec4 aecc+2 aecf+3 aed8+2 aedc aee8 aeeb aeed aef4 aef8 aefc
   af07+2 af0d af10 af2c+2 af30 af32 af34 af3c+2 af3f af41+3 af48+2 af50 af5c+2 af64+2 af79 af80
   af84 af88 af90+2 af95 af9c afb8+2 afbc afc0 afc7+3 afcb afcd+2 afd4 afdc afe8+2 aff0+2 aff4 aff8
   b000+2 b004 b00c b010 b014 b01c+2 b028 b044+2 b048 b04a b04c b04e b053+3 b057 b059 cfcc+14
   cfe2+2 cfe5+3 cfe9 -6 cfea+6 cff2 cff4 cff6+6 cffd+3 d001+3 d005+6 -6 d00b+6 d012+6 d019+14 b05d
   b07c+2 b080 b084 b08c+2 b08f b091 b098+3 b09c b09f+4 b0a8+2 b0ab+5 b0b1 b0b3+3 b0b8 b0bc b0c4+2
   b0c7+3 b0d0+2 b0d4 b0d8 b0e0 b0e5 b108+2 b10b+2 b110 b112+2 b118+2 b11b+3 b123+3 b128 b12c
   b134+2 b137+3 b140+2 b144 b148 b150+2 b154+2 b158 b15c b160 b178+2 b17c b180 b182 b188+2 b18b
   b18d b192+3 b198 b19c b1a8 b1cc b1d0 b1d4 b1dc+2 d02e+6 d036+2 d039+3 d03d+7 d046 d048 d04a+6 -6
   d051+3 d055+3 d059+7 d061+b d06e+2 -6 d071+3 d075+7 d07e+3 d082+13 b1df b1e8+2 b1ec b1f0 b1f9
   b1fb b1fd b204+2 b208 b20b+2 b214+2 b217 b219 b220 b234 b23c b258 b25c b260 b268+2 b274+2 b27c
   b284+2 b289 b290+2 b294 b298+3 b2a0+2 b2a3 b2a5+2 b2aa b2ac b2b0 b2b4 b2c8+2 b2cc b2d0 b2d2
   b2d8+2 b2db b2dd b2e2 b2e4+3 b2e8 b2eb+5 b2f3+3 b2f7+5 b2ff+3 b304 b308 b310+2 b313+3 b31c
   b354+3 b358 b35b+2 b35e+2 b364+2 d095+f d0a6+2 d0a9+3 d0ad+6 -6 d0b3 d0b6 d0b8 d0ba+6 d0c2+2
   d0c5+3 d0ca+6 d0d2 d0d6+5 -6 d0db d0de+2 d0e1+3 d0e5+7 d0ee d0f2+6 d0f9+c b367 b369 b36b b36e
   b370+2 b374 b378 b380+2 b383+3 b38c b390 b394 b3a0+2 b3a8 b3ac b3c4+2 b3c8 b3cb+2 b3ce b3d0
   b3d4+2 b3d7 b3d9 b3db b3dd b3e0 b3e4 b3e8 b3fc b410 b418 b41c b420 b428+2 b42b b434 b450+2 b454
   b458 b460+2 b463 b465 b46c b480 b488 b49d b4a4 b4a8 b4ac b4b5 b4b7 b4b9 b4c0 b4c4 b4c8 b4d0 b4d5
   b4dc+2 b4e0 b4e3+2 b4e6 b4ec+2 b4ef b4f1 b4f8 b514+2 b518 b51b+2 b524+2 b527+4 b530+2 b534 b538
   d105+8 d10e+12 -6 d120+10 d132+2 d135+3 d139 d13b+4 -6 d13f d142 d146+6 d14e+2 d151+3 d155+7
   d15e d160 d162+6 d169+3 d16d b540+2 b543+3 b54b+3 b550 b554 b55c+2 b55f+3 b5a0+2 b5a4 b5a8
   b5aa+2 b5b0+2 b5b3+3 b5bb+3 b5c0 b5c4 b5cc+2 b5cf+3 b5d8 b5ec b610+2 b614 b618 b625 b62c b634
   b648 b664 b668 b69c+2 b6a0 b6a4 b6ab+2 b6b1 b6d4 b6f0 b6f4 b6f8 b700+2 b705 b728+2 b72c b72f+2
   b738+2 b73b b744 b748 b74c b754+2 b760 b764 b768 b770+2 b773 b775 b77c+2 b780 b784 b78c+2 b78f+4
   b796+2 d16e+e d17d+7 d185+3 d189+2 -6 d18b+15 d1a2+2 d1a5+3 -6 d1a9+7 d1b2 d1b4 d1b6+4 d1bb
   d1bd+3 d1c1+f b798+2 b79c b7a0 b7a8+2 b7ab+3 b7b4+2 b7b8 b7c7 b7c9 b7ec+2 b7f0 b7f4 b7fc+2
   b7ff+3 b807+3 b80c b810 b818+2 b81b b81d b824+2 b828 b82c b834+2 b837+3 b840 b844 b851 b853
   b85c+2 b860 b864 b86c+2 b86f b871 b878 b87c b88d b8a8 b8b0 b8b4 b8b8 b8c0+2 b8c3 b8c5 b8cc b8d0
   b8d4 b8dd b8df b8e1 b8e8+2 b8ec b8f0 b8f8+2 b8fb b8fd b904 b918 b920 b93c+2 b940 b944 b94c b94f
   b951 b958+2 b95c b960 b968+2 d1d0+8 d1d9+12 -6 d1eb+9 d1f5+3 d1f9+e -6 d208 d20a+6 d211+19 b96b
   b96d b974+2 b978 b97c b984+2 b987 b989+2 b98d+2 b9ac+2 b9b0 b9b4 b9bc+2 b9bf b9c1 b9c8+2 b9cc
   b9ce+5 b9d8+2 b9db b9dd+2 b9e1 b9e3+3 b9e8 b9ec b9f4+2 b9f7+4 ba00+2 ba08 ba15 ba38+2 ba3c ba40
   ba42 ba48+2 ba4b ba4d+2 ba53+3 ba58 ba5c ba64+2 ba67+3 ba70+2 ba74 ba78 ba83+3 ba87 ba8c baa8+2
   baab+2 bab0 bab2 bab8+2 babb babd bac4 bac8 bad8+2 bafc d22a+2 d22e+2 d231+3 d235+7 d23e d240
   d242+6 d249+4 -6 d24d+f d25d+7 d265+4 -6 d269+17 d282+2 d285+3 d289+4 bb00 bb04 bb0d bb0f bb11
   bb18 bb1c bb20 bb29 bb2b bb34+3 bb38 bb3b+4 bb44+2 bb47 bb49 bb4d bb4f+2 bb54 bb58 bb61 bb63
   bb6c bb88 bb8c bb90 bba4 bba8 bbac bbb4 bbb7 bbc0 bbc4 bbc8 bbd0 bbd3 bbf8+2 bbfc bbff+2 bc02
   bc08+2 bc0b+3 bc0f bc11 bc14+5 bc1b+5 bc24+2 bc27 bc29 bc2d bc30+2 bc34 bc38 bc40+2 bc43+3 bc49
   bc4c+2 bc50 bc5d bc84+2 bc88 bc8b+2 bc8e bc94+2 bc97 d28d+3 d292+3 d296+6 d29d+3 d2a1+3 d2a5+7
   d2ad -6 d2ae+3 d2b2+6 d2ba+2 d2bd+2 d2c1 d2c3+5 d2ca d2cc+6 -6 d2d2+2 d2d5+3 d2d9+3 d2dd+7
   d2e6+a d2f2+2 d2f5+3 d2f9+2 bc99+2 bca0+2 bca4 bca7+2 bcb0+2 bcb3+3 bcbc+2 bcc0 bcc4 bccd bccf+3
   bcd5 bcd8 bcdc bcf4+3 bcf8 bcfc bd04+2 bd07 bd09 bd10 bd14 bd24 bd2c bd40 bd48+2 bd4c bd50
   bd58+2 bd64 bd68 bd80+2 bd84 bd87+4 bd90+2 bd93 bd95 bd99+2 bd9c bda4 bdb0 bdb8 bdd4+2 bdd8 bddc
   bde9 bdf0 bdf4 bdf8 be00 be03 be05 be0c+2 be10 be14 be1c+2 be1f be44+2 be48 be4c be4e be54+2
   be57 be59+3 be60+2 be64 d2fb+5 d302 d304 d306+6 d30f d311+3 d315 d317+5 d31e d322+2 -6 d324
   d326+2 d32a+2 d32d+3 d331+7 d33a d33e+6 d346+4 -6 d34a+20 be68 be6a be70+2 be73+3 be7b+3 be80
   be84 be8c+2 be8f+3 be98+2 bea8 bed0+2 bed4 bed7+2 bee0 bee3+3 beec bf01 bf08+2 bf18+2 bf1b+3
   bf40+2 bf44 bf48 bf50+2 bf55 bf94 bfb0 bfc5 bfcc+2 bfd0 bfd4 bfdc bfdf bfe1 c03c c051 c058 c05c
   c060 c068+2 c090+2 c094 c098 c0a0+2 c0a3 c0a5 c0ac+2 c0af+2 c0b3+4 c0bc+2 c0bf+3 c0c5 c0c8+2
   c0cc c0d0 c0d8+2 c0db+3 c0e4 d36a+12 d37e+2 d381+3 d385+3 -6 d388+4 d38e d392+6 d39a+2 d39d+3
   d3a1+7 d3aa d3ac d3ae -6 d3af+5 d3b5+3 d3b9+3 d3bd+7 d3c6+2 d3ca+6 d3d1+6 c0e5 c0e8 c0ec c0f4+2
   c0f7 c0f9 c100 c104 c108 c110 c115 c11c+5 c123+2 c126+2 c12c+2 c12f+3 c136 c138+2 c13c c140
   c148+2 c14b+3 c154+2 c158 c15c c164+2 c167+3 c170 c174 c178 c185 c18c+3 c190 c194 c196 c19c+2
   c19f c1a1 c1a5 c1a8+2 c1ac c1b0 c1bd c1c4 c1c8 c1cc c1d4 c1d7+2 c1e0 c1e4 c1e8 c1f0+2 c1f3
   c1fc+2 c200 c204 c20c+2 c20f c211 c218+2 c21c c21f+2 c228+2 c22b c22d d3d7 d3d9+8 d3e2 d3e4+8
   d3ee+2 d3f1+3 d3f5+3 -6 d3f8+4 d3fe d400 d402+6 d409+e -6 d417+6 d41e+1a c22f c231+2 c234 c248
   c250+2 c254 c258 c260 c265 c26c+2 c270 c274 c27c+2 c27f c281 c288+2 c290 c298 c29b c29d c2a4+2
   c2a8 c2ac+2 c2b4+2 c2b7 c2b9 c2dc+2 c2e0 c2e3+2 c2eb+3 c2ef c2f1 c2f6 c2f8+2 c2fb+2 c300 c308+2
   c30c+2 c313+3 c318 c31c c324+2 c328+2 c345 c368+2 c36c c370 c372 c378+2 c37c+2 c384 c388 c38c
   c3c0 c3d8+2 c3dc c3df+2 c3e2 c3e8+2 c3ed c3f4+2 c3f8 c408 c410 c424 c42c c430 d438+8 d441+3
   d445+f -6 d454+8 d45d+3 d461+3 d465+8 d46e d470+3 -6 d473+5 d47a+2 d47d+2 d481 d483+5 d48a d48c
   d48e+6 d495+9 c434 c43c+2 c448 c464+2 c468 c46c c474+2 c479 c480 c494 c49c c4b8 c4bc c4e9 c4f0+2
   c4f4 c4f8 c4fa c4ff+3 c50c c510 c514 c51c c528+2 c52c c530 c538+2 c53b c53d c544+2 c548+3 c54c+3
   c553+3 c557+3 c55d+2 c560+2 c564 c568 c570+2 c573+3 c57c+2 c580 c584 c587 c58c+2 c58f c591 c595
   c597+2 c59c c5a0 c5a9 c5b4+2 c5b8+2 c5bb+4 c5c4+7 c5cc c5ce d49e+b d4aa+f -6 d4b9+13 d4cd+3
   d4d1+3 d4d5 -6 d4d6+6 d4dd+2 d4e0+8 d4e9+3 d4ed+3 d4f1+7 d4f9+2 d4fc c5d0+2 c5d4 c5d8 c5e0+2
   c5e3 c5e5 c5ec+3 c5f0 c5f4 c5f6+2 c5fc+6 c605+4 c60c c610 c618+2 c61b+2 c624+2 c628 c62c+3 c630
   c633+3 c637 c639 c63b c640+2 c644 c648 c650+2 c653+3 c65c+2 c660 c66c c66f c671 c678+2 c67c c680
   c688+2 c68b c68d c694+2 c698 c69c c6a4+2 c6a7 c6a9 c6b0+2 c6b4 c6b8+3 c6c0+2 c6c3 c6c5 c6cc+2
   c6d0 c6d4 c6dc+2 c6e0+2 c6e8 d4fe+6 d505+3 d509+3 d50d+7 d516 d518+6 -6 d51e+1a -6 d538+4 d53e+2
   d541+3 d545+7 d54e d550 d552+6 d55a+2 d55d+3 d561+3 c6e9 c6ec c6f0 c6f8+2 c6fd c704+2 c708 c70c
   c714+2 c717 c719 c720+2 c724 c728 c730+2 c733 c735 c737 c73c+2 c740 c744 c74a c74c+2 c74f c751+8
   c75c c760 c768 c76b c774+2 c778 c77c+3 c783+3 c787+4 c78e c790+2 c794 c796+3 c79a c7a0+2 c7a3+4
   c7ac+2 c7b0 c7b4 c7bc+2 c7bf+3 c7c8+2 c7cc c7ce c7d0 c7d8 c7dd c7e4 c7e8 c7ec c800+2 c804 c808
   c80a d564 d566+2 d56a d56c d56e+6 d576+2 d579+3 d57d+7 d586 d58a+2 -6 d58c+4 d591+14 d5a6+2 -6
   d5a8+20 c810+2 c813 c815+2 c81c+2 c820 c824 c82c+2 c82f c831 c838 c83c c840 c848+2 c84c+2 c854
   c870+2 c874 c878 c87a c880+2 c883 c885+3 c88b+3 c894 c89d c89f c8a1 c8a8 c8bc+2 c8c4 c8c8 c8cc
   c8d4+2 c8d7 c8d9 c8e0+2 c8e4 c8f5 c8fc+2 c900 c904+3 c90c+2 c90f c911 c918 c92c c934 c950+2 c954
   c958 c960+2 c963 c96c c970 c974 c97c c988+2 c98c c990 c998+2 c99b c99d c9c0+2 c9c4 c9c7+2 c9ca
   c9d0+2 c9d3 d5ca+2 d5cd+3 d5d1 d5d3+5 d5da d5dc d5de+6 d5e6+2 d5e9+3 d5ed+2 -6 d5ef+5 d5f6 d5f8
   d5fa+6 d602+2 d605+3 d609+7 d612 -6 d616+6 d61d+3 d621+3 d625+8 d62e+a d63a+2 c9d5+2 c9d9+2
   c9dc+2 c9e0 c9e2 c9e4 c9e7 c9ec+2 c9ef+3 c9f8+2 c9fc ca00 ca08+2 ca0b+3 ca14 ca18 ca29 ca4c+2
   ca50 ca54 ca5c+2 ca5f+3 ca68 ca7d ca84 ca98 cabc+2 cac0 cac4 cacc+2 cacf cad1 cad3 cad8+2 cae0
   caec caf4 cb08 cb10 cb14 cb18 cb20+2 cb41 cb48+2 cb4c cb50 cb58+2 cb5d cb64 cb78+2 cb9c cbb8
   cbd4 cbe4 cbe7 cbe9 cc0c+2 cc10 cc14 cc1c+2 cc21+2 cc27+3 cc2c cc2e cc30 cc38+2 cc3b d63d+3
   d641+4 d646+2 d64a d64c d64e+3 d652+2 d656+2 d659+3 d65d+5 -6 d662+5 d668 d66a+6 d672+2 d675+c
   -6 d681+2 d684 d686+6 d68e+2 d691+3 d695+8 d69e d6a0 d6a2+6 d6a9+2 cc3c+3 cc44+2 cc48 cc4c
   cc54+2 cc57+3 cc60 cc64 cc66 cc68 cc70 cc75 cc98+2 cc9c cca0 cca8+2 ccab+3 ccb4+2 ccb8 ccbc
   ccc4+2 ccc7 ccc9 ccd0 ccd4 cce4 ccec ccf0 cd01 cd08+2 cd0c cd10 cd18+2 cd1b cd1d cd24 cd28 cd2c
   cd39 cd5c cd60 cd64 cd6c+2 cd6f cd71 cd78 cd88 cd94+2 cd98 cd9c cda4+2 cda7 cda9 cdb0 cdc4 cdcc
   cdd0 cde8 cdec cdf0 cdf8+2 cdfb cdfd ce04 ce08 ce0c ce14 ce19 ce20+2 ce24 ce28 ce30+2 ce33 ce35
   d6ab d6ad+3 d6b1+8 d6ba d6bc+8 d6c6+2 d6c9+3 -6 d6cd+4 d6d2+2 d6d5+2 d6d8 d6da+6 d6e1+3 d6e5+3
   d6e9+5 -6 d6ee+2 d6f1+4 d6f6+6 d6fe+2 d701+3 d705+c d712+3 ce58+2 ce5c ce5f+3 ce68+2 ce6b ce6d
   ce74+2 ce78 ce7c ce84+2 ce87 ce89 ce90+2 ce94 ce98 cea0+2 cea3+3 ceac+2 cec1 cee4+2 cee8 ceeb+2
   cef4+2 cef7+3 cf00+2 cf04 cf08 cf10+2 cf13 cf15 cf1c cf20 cf24 cf2c+2 cf2f+3 cf38 cf54+2 cf58
   cf5c cf64+2 cf67 cf69 cf70+2 cf74 cf78 cf80 cf85 cf8c cfa1 cfa8 cfb0 cfc4 cfe0+2 cfe4 cfe8
   cff0+2 cff3 cff5 cffc d000 d004 d011 d018 d02d d034+2 d038 d03c d715+3 d71a+2 d71d+3 d721+7 d72a
   d72c d72e+6 d736+2 d739 -6 d73a+2 d73d+7 d745+2 d748 d74a+6 d752+2 d755 d75a+5 -6 d75f d762 d764
   d766+3 d76a+2 d76d+3 d771+3 d775+7 d77e+3 d782+6 d78a+2 d044+2 d047 d049 d050 d054 d058 d060
   d06c+2 d070 d074 d07c+2 d081 d0a4+2 d0a8 d0ac d0b4+2 d0b7 d0b9 d0c0+2 d0c4 d0c8+2 d0d0+2 d0d3+3
   d0dc+2 d0e0 d0e4 d0ec+2 d0ef+3 d0f8 d10d d130+2 d134 d138 d13a d140+2 d143+3 d14c+2 d150 d154
   d15c+2 d15f d161 d168 d16c d17c d184 d188 d1a0+2 d1a4 d1a8 d1b0+2 d1b3 d1b5 d1ba d1bc d1c0 d1d8
   d1f4 d1f8 d207 d209 d210 d22c+2 d230 d234 d23c+2 d23f d241 d248 d25c d78d+3 d791+7 d79a d79c
   d79e+6 -4e d264 d280+2 d284 d288 d290+2 d295 d29c d2a0 d2a4 d2ac d2b1 d2b8+2 d2bc d2bf+2 d2c2
   d2c8+2 d2cb d2d4 d2d8 d2dc d2e4+2 d2f0+2 d2f4 d2f8 d300+2 d303 d305 d30c+3 d310 d314 d316 d31c+2
   d31f+3 d325 d328+2 d32c d330 d338+2 d33b+3 d344+2 d37c+2 d380 d384 d38c+2 d38f+3 d398+2 d39c
   d3a0 d3a8+2 d3ab d3ad d3b4 d3b8 d3bc d3c4+2 d3c8+2 d3d0 d3d8 d3e1 d3e3 d3ec+2 d3f0 d3f4 d3fc+2
   d3ff d401 -60 d408 d41d d440 d444 d45c d460 d464 d46d d46f d478+2 d47c d47f+2 d482 d488+2 d48b
   d48d d494 d4a9 d4cc d4d0 d4d4 d4dc d4df d4e8 d4ec d4f0 d4f8 d4fb d4fd d504 d508 d50c d514+2 d517
   d53c+2 d540 d544 d54c+2 d54f d551 d558+2 d55c d560 d565 d568+2 d56b d56d d574+2 d578 d57c d584+2
   d587+3 d590 d5a5 d5c8+2 d5cc d5d0 d5d2 d5d8+2 d5db d5dd d5e4+2 d5e8 d5ec d5f4+2 d5f7 d5f9 d600+2
   d604 d608 d610+2 d613+3 d61c d620 -60 d624 d62d d638+2 d63c d640 d645 d648+2 d64b d64d d651
   d654+2 d658 d65c d667 d669 d670+2 d674 d683 d685 d68c+2 d690 d694 d69d d69f d6a1 d6a8 d6ac d6b0
   d6b9 d6bb d6c4+2 d6c8 d6cc d6d1 d6d4 d6d7 d6d9 d6e0 d6e4 d6e8 d6f0 d6f5 d6fc+2 d700 d704 d711
   d718+2 d71c d720 d728+2 d72b d72d d734+2 d738 d73c d744 d747 d749 d750+2 d754 d756+4 d760+2 d763
   d765 d769 d76c d770 d774 d77c+2 d781 d788+2 d78c d790 d798+2 d79b d79d -11e 4f3d 4f73 5047 50f9
   52a0 53ef 5475 54e5 5609 5ac1 5bb6 6687 67b6+2 67ef 6b4c 73c2 75c2 7a3c 82db 8304 8857 8888 8a36
   8cc8 8dcf 8efb 8fe6 99d5 523b 5374 5404 606a 6164 6bbc 73cf 811a 89ba 89d2 95a3 4f83 520a 58be
   5978 59e6 5e72 5e79 61c7 63c0 6746 67ec 687f 6f97 764e 770b 78f5 7a08 7aff 7c21 809d 826e 8271
   8aeb 9593 4e6b 559d 66f7 6e34 78a3 7aed 845b 8910 874e 97a8 52d8 574e 582a 5d4c 611f 61be 6221
   6562 67d1 6a44 6e1b 7518 75b3 76e3 77b0 7d3a 90af 9451+2 9f95 -60 5323 5cac 7532 80db 9240 9598
   525b 5808 59dc 5ca1 5d17 5eb7 5f3a 5f4a 6177 6c5f 757a 7586 7ce0 7d73 7db1 7f8c 8154 8221 8591
   8941 8b1b 92fc 964d 9c47 4ecb 4ef7 500b 51f1 584f 6137 613e 6168 6539 69ea 6f11 75a5 7686 76d6
   7b87 82a5 84cb f900 93a7 958b 5580 5ba2 5751 f901 7cb3 7fb9 91b5 5028 53bb 5c45 5de8 62d2 636e
   64da 64e7 6e20 70ac 795b 8ddd 8e1e f902 907d 9245 92f8 4e7e 4ef6 5065 5dfe 5efa 6106 6957 8171
   8654 8e47 9375 9a2b 4e5e 5091 6770 6840 5109 528d 5292 6aa2 -60 77bc 9210 9ed4 52ab 602f 8ff2
   5048 61a9 63ed 64ca 683c 6a84 6fc0 8188 89a1 9694 5805 727d 72ac 7504 7d79 7e6d 80a9 898b 8b74
   9063 9d51 6289 6c7a 6f54 7d50 7f3a 8a23 517c 614a 7b9d 8b19 9257 938c 4eac 4fd3 501e 50be 5106
   52c1 52cd 537f 5770 5883 5e9a 5f91 6176 61ac 64ce 656c 666f 66bb 66f4 6897 6d87 7085 70f1 749f
   74a5 74ca 75d9 786c 78ec 7adf 7af6 7d45 7d93 8015 803f 811b 8396 8b66 8f15 9015 93e1 9803 9838
   9a5a 9be8 4fc2 5553 583a 5951 5b63 5c46 60b8 6212 6842 68b0 -60 68e8 6eaa 754c 7678 78ce 7a3d
   7cfb 7e6b 7e7c 8a08 8aa1 8c3f 968e 9dc4 53e4 53e9 544a 5471 56fa 59d1 5b64 5c3b 5eab 62f7 6537
   6545 6572 66a0 67af 69c1 6cbd 75fc 7690 777e 7a3f 7f94 8003 80a1 818f 82e6 82fd 83f0 85c1 8831
   88b4 8aa5 f903 8f9c 932e 96c7 9867 9ad8 9f13 54ed 659b 66f2 688f 7a40 8c37 9d60 56f0 5764 5d11
   6606 68b1 68cd 6efe 7428 889e 9be4 6c68 f904 9aa8 4f9b 516c 5171 529f 5b54 5de5 6050 606d 62f1
   63a7 653b 73d9 7a7a 86a3 8ca2 978f 4e32 5be1 6208 679c 74dc -60 79d1 83d3 8a87 8ab2 8de8 904e
   934b 9846 5ed3 69e8 85ff 90ed f905 51a0 5b98 5bec 6163 68fa 6b3e 704c 742f 74d8 7ba1 7f50 83c5
   89c0 8cab 95dc 9928 522e 605d 62ec 9002 4f8a 5149 5321 58d9 5ee3 66e0 6d38 709a 72c2 73d6 7b50
   80f1 945b 5366 639b 7f6b 4e56 5080 584a 58de 602a 6127 62d0 69d0 9b41 5b8f 7d18 80b1 8f5f 4ea4
   50d1 54ac 55ac 5b0c 5da0 5de7 652a 654e 6821 6a4b 72e1 768e 77ef 7d5e 7ff9 81a0 854e 86df 8f03
   8f4e 90ca 9903 9a55 9bab 4e18 4e45 4e5d 4ec7 4ff1 5177 52fe -60 5340 53e3 53e5 548e 5614 5775
   57a2 5bc7 5d87 5ed0 61fc 62d8 6551 67b8 67e9 69cb 6b50 6bc6 6bec 6c42 6e9d 7078 72d7 7396 7403
   77bf 77e9 7a76 7d7f 8009 81fc 8205 820a 82df 8862 8b33 8cfc 8ec0 9011 90b1 9264 92b6 99d2 9a45
   9ce9 9dd7 9f9c 570b 5c40 83ca 97a0 97ab 9eb4 541b 7a98 7fa4 88d9 8ecd 90e1 5800 5c48 6398 7a9f
   5bae 5f13 7a79 7aae 828e 8eac 5026 5238 52f8 5377 5708 62f3 6372 6b0a 6dc3 7737 53a5 7357 8568
   8e76 95d5 673a 6ac3 6f70 8a6d 8ecc 994b f906 6677 6b78 8cb4 -60 9b3c f907 53eb 572d 594e 63c6
   69fb 73ea 7845 7aba 7ac5 7cfe 8475 898f 8d73 9035 95a8 52fb 5747 7547 7b60 83cc 921e f908 6a58
   514b 524b 5287 621f 68d8 6975 9699 50c5 52a4 52e4 61c3 65a4 6839 69ff 747e 7b4b 82b9 83eb 89b2
   8b39 8fd1 9949 f909 4eca 5997 64d2 6611 6a8e 7434 7981 79bd 82a9 887e+2 895f f90a 9326 4f0b 53ca
   6025 6271 6c72 7d1a 7d66 4e98 5162 77dc 80af 4f01 4f0e 5176 5180 55dc 5668 573b 57fa 57fc 5914
   5947 5993 5bc4 5c90 5d0e 5df1 5e7e 5fcc 6280 65d7 65e3 -60 671e+2 675e 68cb 68c4 6a5f 6b3a 6c23
   6c7d 6c82 6dc7 7398 7426 742a 7482 74a3 7578 757f 7881 78ef 7941 7947+2 797a 7b95 7d00 7dba 7f88
   8006 802d 808c 8a18 8b4f 8c48 8d77 9321 9324 98e2 9951 9a0e+2 9a65 9e92 7dca 4f76 5409 62ee 6854
   91d1 55ab 513a f90b+2 5a1c 61e6 f90d 62cf 62ff f90e+6 90a3 f914+5 8afe f919+4 6696 f91d 7156
   f91e+2 96e3 f920 634f 637a 5357 f921 678f 6960 6e73 f922 7537 f923+3 -60 7d0d f926+2 8872 56ca
   5a18 f928+5 4e43 f92d 5167 5948 67f0 8010 f92e 5973 5e74 649a 79ca 5ff5 606c 62c8 637b 5be7 5bd7
   52aa f92f 5974 5f29 6012 f930+3 7459 f933+6 99d1 f939+b 6fc3 f944+2 81bf 8fb2 60f1 f946+2 8166
   f948+2 5c3f f94a+8 5ae9 8a25 677b 7d10 f952+6 80fd f958+2 5c3c 6ce5 533f 6eba 591a 8336 -60 4e39
   4eb6 4f46 55ae 5718 58c7 5f56 65b7 65e6 6a80 6bb5 6e4d 77ed 7aef 7c1e 7dde 86cb 8892 9132 935b
   64bb 6fbe 737a 75b8 9054 5556 574d 61ba 64d4 66c7 6de1 6e5b 6f6d 6fb9 75f0 8043 81bd 8541 8983
   8ac7 8b5a 931f 6c93 7553 7b54 8e0f 905d 5510 5802 5858 5e62 6207 649e 68e0 7576 7cd6 87b3 9ee8
   4ee3 5788 576e 5927 5c0d 5cb1 5e36 5f85 6234 64e1 73b3 81fa 888b 8cb8 968a 9edb 5b85 5fb7 60b3
   5012 5200 5230 5716 5835 5857 5c0e 5c60 5cf6 5d8b 5ea6 5f92 60bc 6311 6389 6417 6843 -60 68f9
   6ac2 6dd8 6e21 6ed4 6fe4 71fe 76dc 7779 79b1 7a3b 8404 89a9 8ced 8df3 8e48 9003 9014 9053 90fd
   934d 9676 97dc 6bd2 7006 7258 72a2 7368 7763 79bf 7be4 7e9b 8b80 58a9 60c7 6566 65fd 66be 6c8c
   711e 71c9 8c5a 9813 4e6d 7a81 4edd 51ac 51cd 52d5 540c 61a7 6771 6850 68df 6d1e 6f7c 75bc 77b3
   7ae5 80f4 8463 9285 515c 6597 675c 6793 75d8 7ac7 8373 f95a 8c46 9017 982d 5c6f 81c0 829a 9041
   906f 920d 5f97 5d9d 6a59 71c8 767b 7b49 85e4 8b04 9127 9a30 5587 61f6 f95b 7669 7f85 -60 863f
   87ba 88f8 908f f95c 6d1b 70d9 73de 7d61 843d f95d 916a 99f1 f95e 4e82 5375 6b04 6b12 703e 721b
   862d 9e1e 524c 8fa3 5d50 64e5 652c 6b16 6feb 7c43 7e9c 85cd 8964 89bd 62c9 81d8 881f 5eca 6717
   6d6a 72fc 7405 746f 8782 90de 4f86 5d0d 5fa0 840a 51b7 63a0 7565 4eae 5006 5169 51c9 6881 6a11
   7cae 7cb1 7ce7 826f 8ad2 8f1b 91cf 4fb6 5137 52f5 5442 5eec 616e 623e 65c5 6ada 6ffe 792a 85dc
   8823 95ad 9a62 9a6a 9e97 9ece 529b 66c6 6b77 701d 792b 8f62 9742 6190 6200 6523 6f23 -60 7149
   7489 7df4 806f 84ee 8f26 9023 934a 51bd 5217 52a3 6d0c 70c8 88c2 5ec9 6582 6bae 6fc2 7c3e 7375
   4ee4 4f36 56f9 f95f 5cba 5dba 601c 73b2 7b2d 7f9a 7fce 8046 901e 9234 96f6 9748 9818 9f61 4f8b
   6fa7 79ae 91b4 96b7 52de f960 6488 64c4 6ad3 6f5e 7018 7210 76e7 8001 8606 865c 8def 8f05 9732
   9b6f 9dfa 9e75 788c 797f 7da0 83c9 9304 9e7f 9e93 8ad6 58df 5f04 6727 7027 74cf 7c60 807e 5121
   7028 7262 78ca 8cc2 8cda 8cf4 96f7 4e86 50da 5bee 5ed6 6599 71ce 7642 77ad 804a 84fc -60 907c
   9b27 9f8d 58d8 5a41 5c62 6a13 6dda 6f0f 763b 7d2f 7e37 851e 8938 93e4 964b 5289 65d2 67f3 69b4
   6d41 6e9c 700f 7409 7460 7559 7624 786b 8b2c 985e 516d 622e 9678 4f96 502b 5d19 6dea 7db8 8f2a
   5f8b 6144 6817 f961 9686 52d2 808b 51dc 51cc 695e 7a1c 7dbe 83f1 9675 4fda 5229 5398 540f 550e
   5c65 60a7 674e 68a8 6d6c 7281 72f8 7406 7483 f962 75e2 7c6c 7f79 7fb8 8389 88cf 88e1 91cc 91d0
   96e2 9bc9 541d 6f7e 71d0 7498 85fa 8eaa 96a3 9c57 9e9f 6797 6dcb 7433 81e8 9716 782c -60 7acb
   7b20 7c92 6469 746a 75f2 78bc 78e8 99ac 9b54 9ebb 5bde 5e55 6f20 819c 83ab 9088 4e07 534d 5a29
   5dd2 5f4e 6162 633d 6669 66fc 6eff 6f2b 7063 779e 842c 8513 883b 8f13 9945 9c3b 551c 62b9 672b
   6cab 8309 896a 977a 4ea1 5984 5fd8+2 671b 7db2 7f54 8292 832b 83bd 8f1e 9099 57cb 59b9 5a92 5bd0
   6627 679a 6885 6bcf 7164 7f75 8cb7 8ce3 9081 9b45 8108 8c8a 964c 9a40 9ea5 5b5f 6c13 731b 76f2
   76df 840c 51aa 8993 514d 5195 52c9 68c9 6c94 7704 7720 7dbf 7dec 9762 9eb5 6ec5 -60 8511 51a5
   540d 547d 660e 669d 6927 6e9f 76bf 7791 8317 84c2 879f 9169 9298 9cf4 8882 4fae 5192 52df 59c6
   5e3d 6155 6478+2 66ae 67d0 6a21 6bcd 6bdb 725f 7261 7441 7738 77db 8017 82bc 8305 8b00 8b28 8c8c
   6728 6c90 7267 76ee 7766 7a46 9da9 6b7f 6c92 5922 6726 8499 536f 5893 5999 5edf 63cf 6634 6773
   6e3a 732b 7ad7 82d7 9328 52d9 5deb 61ae 61cb 620a 62c7 64ab 65e0 6959 6b66 6bcb 7121 73f7 755d
   7e46 821e 8302 856a 8aa3 8cbf 9727 9d61 58a8 9ed8 5011 520e 543b 554f 6587 -60 6c76 7d0a+2 805e
   868a 9580 96ef 52ff 6c95 7269 5473 5a9a 5c3e 5d4b 5f4c 5fae 672a 68b6 6963 6e3c 6e44 7709 7c73
   7f8e 8587 8b0e 8ff7 9761 9ef4 5cb7 60b6 610d 61ab 654f 65fb+2 6c11 6cef 739f 73c9 7de1 9594 5bc6
   871c 8b10 525d 535a 62cd 640f 64b2 6734 6a38 6cca 73c0 749e 7b94 7c95 7e1b 818a 8236 8584 8feb
   96f9 99c1 4f34 534a 53cd 53db 62cc 642c 6500 6591 69c3 6cee 6f58 73ed 7554 7622 76e4 76fc 78d0
   78fb 792c 7d46 822c 87e0 8fd4 9812 98ef 52c3 62d4 64a5 6e24 6f51 -60 767c 8dcb 91b1 9262 9aee
   9b43 5023 508d 574a 59a8 5c28 5e47 5f77 623f 653e 65b9 65c1 6609 678b 699c 6ec2 78c5 7d21 80aa
   8180 822b 82b3 84a1 868c 8a2a 8b17 90a6 9632 9f90 500d 4ff3 f963 57f9 5f98 62dc 6392 676f 6e43
   7119 76c3 80cc 80da 88f4+2 8919 8ce0 8f29 914d 966a 4f2f 4f70 5e1b 67cf 6822 767d+2 9b44 5e61
   6a0a 7169 71d4 756a f964 7e41 8543 85e9 98dc 4f10 7b4f 7f70 95a5 51e1 5e06 68b5 6c3e 6c4e 6cdb
   72af 7bc4 8303 6cd5 743a 50fb 5288 58c1 64d8 6a97 74a7 7656 -60 78a7 8617 95e2 9739 f965 535e
   5f01 8b8a 8fa8 8faf 908a 5225 77a5 9c49 9f08 4e19 5002 5175 5c5b 5e77 661e 663a 67c4 68c5 70b3
   7501 75c5 79c9 7add 8f27 9920 9a08 4fdd 5821 5831 5bf6 666e 6b65 6d11 6e7a 6f7d 73e4 752b 83e9
   88dc 8913 8b5c 8f14 4f0f 50d5 5310 535c 5b93 5fa9 670d 798f 8179 832f 8514 8907 8986 8f39 8f3b
   99a5 9c12 672c 4e76 4ff8 5949 5c01 5cef+2 6367 68d2 70fd 71a2 742b 7e2b 84ec 8702 9022 92d2 9cf3
   4e0d 4ed8 4fef 5085 5256 526f 5426 5490 57e0 592b 5a66 -60 5b5a 5b75 5bcc 5e9c f966 6276 6577
   65a7 6d6e 6ea5 7236 7b26 7c3f 7f36 8150+2 819a 8240 8299 83a9 8a03 8ca0 8ce6 8cfb 8d74 8dba 90e8
   91dc 961c 9644 99d9 9ce7 5317 5206 5429 5674 58b3 5954 596e 5fff 61a4 626e 6610 6c7e 711a 76c6
   7c89 7cde 7d1b 82ac 8cc1 96f0 f967 4f5b 5f17 5f7f 62c2 5d29 670b 68da 787c 7e43 9d6c 4e15 5099
   5315 532a 5351 5983 5a62 5e87 60b2 618a 6249 6279 6590 6787 69a7 6bd4 6bd6+3 6cb8 f968 7435 75fa
   7812 7891 79d5 79d8 7c83 7dcb 7fe1 80a5 -60 813e 81c2 83f2 871a 88e8 8ab9 8b6c 8cbb 9119 975e
   98db 9f3b 56ac 5b2a 5f6c 658c 6ab3 6baf 6d5c 6ff1 7015 725d 73ad 8ca7 8cd3 983b 6191 6c37 8058
   9a01 4e4d 4e8b 4e9b 4ed5 4f3a 4f3c 4f7f 4fdf 50ff 53f2 53f8 5506 55e3 56db 58eb 5962 5a11 5beb
   5bfa 5c04 5df3 5e2b 5f99 601d 6368 659c 65af 67f6 67fb 68ad 6b7b 6c99 6cd7 6e23 7009 7345 7802
   793e 7940 7960 79c1 7be9 7d17 7d72 8086 820d 838e 84d1 86c7 88df 8a50 8a5e 8b1d 8cdc 8d66 8fad
   90aa 98fc 99df 9e9d 524a f969 6714 f96a -60 5098 522a 5c71 6563 6c55 73ca 7523 759d 7b97 849c
   9178 9730 4e77 6492 6bba 715e 85a9 4e09 f96b 6749 68ee 6e17 829f 8518 886b 63f7 6f81 9212 98af
   4e0a 50b7 50cf 511f 5546 55aa 5617 5b40 5c19 5ce0 5e38 5e8a 5ea0 5ec2 60f3 6851 6a61 6e58 723d
   7240 72c0 76f8 7965 7bb1 7fd4 88f3 89f4 8a73 8c61 8cde 971c 585e 74bd 8cfd 55c7 f96c 7a61 7d22
   8272 7272 751f 7525 f96d 7b19 5885 58fb 5dbc 5e8f 5eb6 5f90 6055 6292 637f 654d 6691 66d9 66f8
   6816 68f2 7280 745e 7b6e 7d6e 7dd6 7f72 -60 80e5 8212 85af 897f 8a93 901d 92e4 9ecd 9f20 5915
   596d 5e2d 60dc 6614 6673 6790 6c50 6dc5 6f5f 77f3 78a9 84c6 91cb 932b 4ed9 50ca 5148 5584 5b0b
   5ba3 6247 657e 65cb 6e32 717d 7401 7444 7487 74bf 766c 79aa 7dda 7e55 7fa8 817a 81b3 8239 861a
   87ec 8a75 8de3 9078 9291 9425 994d 9bae 5368 5c51 6954 6cc4 6d29 6e2b 820c 859b 893b 8a2d 8aaa
   96ea 9f67 5261 66b9 6bb2 7e96 87fe 8d0d 9583 965d 651d 6d89 71ee f96e 57ce 59d3 5bac 6027 60fa
   6210 661f 665f 7329 73f9 76db 7701 7b6c -60 8056 8072 8165 8aa0 9192 4e16 52e2 6b72 6d17 7a05
   7b39 7d30 f96f 8cb0 53ec 562f 5851 5bb5 5c0f 5c11 5de2 6240 6383 6414 662d 68b3 6cbc 6d88 6eaf
   701f 70a4 71d2 7526 758f 758e 7619 7b11 7be0 7c2b 7d20 7d39 852c 856d 8607 8a34 900d 9061 90b5
   92b7 97f6 9a37 4fd7 5c6c 675f 6d91 7c9f 7e8c 8b16 8d16 901f 5b6b 5dfd 640d 84c0 905c 98e1 7387
   5b8b 609a 677e 6dde 8a1f 8aa6 9001 980c 5237 f970 7051 788e 9396 8870 91d7 4fee 53d7 55fd 56da
   5782 58fd 5ac2 5b88 5cab 5cc0 5e25 6101 -60 620d 624b 6388 641c 6536 6578 6a39 6b8a 6c34 6d19
   6f31 71e7 72e9 7378 7407 74b2 7626 7761 79c0 7a57 7aea 7cb9 7d8f 7dac 7e61 7f9e 8129 8331 8490
   84da 85ea 8896 8ab0 8b90 8f38 9042 9083 916c 9296 92b9 968b 96a7+2 96d6 9700 9808 9996 9ad3 9b1a
   53d4 587e 5919 5b70 5bbf 6dd1 6f5a 719f 7421 74b9 8085 83fd 5de1 5f87 5faa 6042 65ec 6812 696f
   6a53 6b89 6d35 6df3 73e3 76fe 77ac 7b4d 7d14 8123 821c 8340 84f4 8563 8a62 8ac4 9187 931e 9806
   99b4 620c 8853 8ff0 9265 5d07 5d27 -60 5d69 745f 819d 8768 6fd5 62fe 7fd2 8936 8972 4e1e 4e58
   50e7 52dd 5347 627f 6607 7e69 8805 965e 4f8d 5319 5636 59cb 5aa4 5c38 5c4e 5c4d 5e02 5f11 6043
   65bd 662f 6642 67be 67f4 731c 77e2 793a 7fc5 8494 84cd 8996 8a66 8a69 8ae1 8c55 8c7a 57f4 5bd4
   5f0f 606f 62ed 690d 6b96 6e5c 7184 7bd2 8755 8b58 8efe 98df 98fe 4f38 4f81 4fe1 547b 5a20 5bb8
   613c 65b0 6668 71fc 7533 795e 7d33 814e 81e3 8398 85aa 85ce 8703 8a0a 8eab 8f9b f971 8fc5 5931
   5ba4 5be6 6089 5be9 5c0b 5fc3 6c81 -60 f972 6df1 700b 751a 82af 8af6 4ec0 5341 f973 96d9 6c0f
   4e9e 4fc4 5152 555e 5a25 5ce8 6211 7259 82bd 83aa 86fe 8859 8a1d 963f 96c5 9913 9d09 9d5d 580a
   5cb3 5dbd 5e44 60e1 6115 63e1 6a02 6e25 9102 9354 984e 9c10 9f77 5b89 5cb8 6309 664f 6848 773c
   96c1 978d 9854 9b9f 65a1 8b01 8ecb 95bc 5535 5ca9 5dd6 5eb5 6697 764c 83f4 95c7 58d3 62bc 72ce
   9d28 4ef0 592e 600f 663b 6b83 79e7 9d26 5393 54c0 57c3 5d16 611b 66d6 6daf 788d 827e 9698 9744
   5384 627c 6396 6db2 7e0a 814b 984d -60 6afb 7f4c 9daf 9e1a 4e5f 503b 51b6 591c 60f9 63f6 6930
   723a 8036 f974 91ce 5f31 f975+2 7d04 82e5 846f 84bb 85e5 8e8d f977 4f6f f978+2 58e4 5b43 6059
   63da 6518 656d 6698 f97a 694a 6a23 6d0b 7001 716c 75d2 760d 79b3 7a70 f97b 7f8a f97c 8944 f97d
   8b93 91c0 967d f97e 990a 5704 5fa1 65bc 6f01 7600 79a6 8a9e 99ad 9b5a 9f6c 5104 61b6 6291 6a8d
   81c6 5043 5830 5f66 7109 8a00 8afa 5b7c 8616 4ffa 513c 56b4 5944 63a9 6df9 5daa 696d 5186 4e88
   4f59 f97f+3 5982 f982 -60 f983 6b5f 6c5d f984 74b5 7916 f985 8207 8245 8339 8f3f 8f5d f986 9918
   f987+3 4ea6 f98a 57df 5f79 6613 f98b+2 75ab 7e79 8b6f f98d 9006 9a5b 56a5 5827 59f8 5a1f 5bb4
   f98e 5ef6 f98f+2 6350 633b f991 693d 6c87 6cbf 6d8e 6d93 6df5 6f14 f992 70df 7136 7159 f993 71c3
   71d5 f994 784f 786f f995 7b75 7de3 f996 7e2f f997 884d 8edf f998+3 925b f99b 9cf6 f99c+3 6085
   6d85 f99f 71b1 f9a0+2 95b1 53ad f9a2+3 67d3 f9a5 708e 7130 7430 8276 82d2 -60 f9a6 95bb 9ae5
   9e7d 66c4 f9a7 71c1 8449 f9a8+2 584b f9aa+2 5db8 5f71 f9ac 6620 668e 6979 69ae 6c38 6cf3 6e36
   6f41 6fda 701b 702f 7150 71df 7370 f9ad 745b f9ae 74d4 76c8 7a4e 7e93 f9af+2 82f1 8a60 8fce f9b1
   9348 f9b2 9719 f9b3+2 4e42 502a f9b5 5208 53e1 66f3 6c6d 6fca 730a 777f 7a62 82ae 85dd 8602 f9b6
   88d4 8a63 8b7d 8c6b f9b7 92b3 f9b8 9713 9810 4e94 4f0d 4fc9 50b2 5348 543e 5433 55da 5862 58ba
   5967 5a1b 5be4 609f f9b9 61ca 6556 65ff 6664 68a7 6c5a 6fb3 -60 70cf 71ac 7352 7b7d 8708 8aa4
   9c32 9f07 5c4b 6c83 7344 7389 923a 6eab 7465 761f 7a69 7e15 860a 5140 58c5 64c1 74ee 7515 7670
   7fc1 9095 96cd 9954 6e26 74e6 7aa9+2 81e5 86d9 8778 8a1b 5a49 5b8c 5b9b 68a1 6900 6d63 73a9 7413
   742c 7897 7de9 7feb 8118 8155 839e 8c4c 962e 9811 66f0 5f80 65fa 6789 6c6a 738b 502d 5a03 6b6a
   77ee 5916 5d6c 5dcd 7325 754f f9ba+2 50e5 51f9 582f 592d 5996 59da 5be5 f9bc+2 5da2 62d7 6416
   6493 64fe f9be 66dc f9bf 6a48 f9c0 71ff 7464 f9c1 -60 7a88 7aaf 7e47 7e5e 8000 8170 f9c2 87ef
   8981 8b20 9059 f9c3 9080 9952 617e 6b32 6d74 7e1f 8925 8fb1 4fd1 50ad 5197 52c7 57c7 5889 5bb9
   5eb8 6142 6995 6d8c 6e67 6eb6 7194 7462 7528 752c 8073 8338 84c9 8e0a 9394 93de f9c4 4e8e 4f51
   5076 512a 53c8 53cb 53f3 5b87 5bd3 5c24 611a 6182 65f4 725b 7397 7440 76c2 7950 7991 79b9 7d06
   7fbd 828b 85d5 865e 8fc2 9047 90f5 91ea 9685 96e8+2 52d6 5f67 65ed 6631 682f 715c 7a36 90c1 980a
   4e91 f9c5 6a52 6b9e 6f90 7189 8018 82b8 8553 -60 904b 9695 96f2 97fb 851a 9b31 4e90 718a 96c4
   5143 539f 54e1 5713 5712 57a3 5a9b 5ac4 5bc3 6028 613f 63f4 6c85 6d39 6e72 6e90 7230 733f 7457
   82d1 8881 8f45 9060 f9c6 9662 9858 9d1b 6708 8d8a 925e 4f4d 5049 50de 5371 570d 59d4 5a01 5c09
   6170 6690 6e2d 7232 744b 7def 80c3 840e 8466 853f 875f 885b 8918 8b02 9055 97cb 9b4f 4e73 4f91
   5112 516a f9c7 552f 55a9 5b7a 5ba5 5e7c+2 5ebe 60a0 60df 6108+2 63c4 6538 6709 f9c8 67d4 67da
   f9c9 6961+2 6cb9 6d27 f9ca 6e38 f9cb -60 6fe1 7336+2 f9cc 745c 7531 f9cd 7652 f9ce+2 7dad 81fe
   8438 88d5 8a98 8adb 8aed 8e30 8e42 904a 903e 907a 9149 91c9 936e f9d0+2 5809 f9d2 6bd3 8089 80b2
   f9d3+2 5141 596b 5c39 f9d5+2 6f64 73a7 80e4 8d07 f9d7 9217 958f f9d8+4 807f 620e 701c 7d68 878d
   f9dc 57a0 6069 6147 6bb7 8abe 9280 96b1 4e59 541f 6deb 852d 9670 97f3 98ee 63d6 6ce3 9091 51dd
   61c9 81ba 9df9 4f9d 501a 5100 5b9c 610f 61ff 64ec 6905 6bc5 7591 77e3 7fa9 8264 858f 87fb 8863
   8abc -60 8b70 91ab 4e8c 4ee5 4f0a f9dd+2 5937 59e8 f9df 5df2 5f1b 5f5b 6021 f9e0+4 723e 73e5
   f9e4 7570 75cd f9e5 79fb f9e6 800c 8033 8084 82e1 8351 f9e7+2 8cbd 8cb3 9087 f9e9+2 98f4 990c
   f9eb+2 7037 76ca 7fca 7fcc 7ffc 8b1a 4eba 4ec1 5203 5370 f9ed 54bd 56e0 59fb 5bc5 5f15 5fcd 6e6e
   f9ee+2 7d6a 8335 f9f0 8693 8a8d f9f1 976d 9777 f9f2+2 4e00 4f5a 4f7e 58f9 65e5 6ea2 9038 93b0
   99b9 4efb 58ec 598a 59d9 6041 f9f4+2 7a14 f9f6 834f 8cc3 5165 5344 -60 f9f7+3 4ecd 5269 5b55
   82bf 4ed4 523a 54a8 59c9 59ff 5b50 5b57 5b5c 6063 6148 6ecb 7099 716e 7386 74f7 75b5 78c1 7d2b
   8005 81ea 8328 8517 85c9 8aee 8cc7 96cc 4f5c 52fa 56bc 65ab 6628 707c 70b8 7235 7dbd 828d 914c
   96c0 9d72 5b71 68e7 6b98 6f7a 76de 5c91 66ab 6f5b 7bb4 7c2a 8836 96dc 4e08 4ed7 5320 5834 58bb
   58ef 596c 5c07 5e33 5e84 5f35 638c 66b2 6756 6a1f 6aa3 6b0c 6f3f 7246 f9fa 7350 748b 7ae0 7ca7
   8178 81df 81e7 838a 846c 8523 8594 85cf 88dd 8d13 91ac 9577 -60 969c 518d 54c9 5728 5bb0 624d
   6750 683d 6893 6e3d 6ed3 707d 7e21 88c1 8ca1 8f09 9f4b 9f4e 722d 7b8f 8acd 931a 4f47 4f4e 5132
   5480 59d0 5e95 62b5 6775 696e 6a17 6cae 6e1a 72d9 732a 75bd 7bb8 7d35 82e7 83f9 8457 85f7 8a5b
   8caf 8e87 9019 90b8 96ce 9f5f 52e3 540a 5ae1 5bc2 6458 6575 6ef4 72c4 f9fb 7684 7a4d 7b1b 7c4d
   7e3e 7fdf 837b 8b2b 8cca 8d64 8de1 8e5f 8fea 8ff9 9069 93d1 4f43 4f7a 50b3 5168 5178 524d 526a
   5861 587c 5960 5c08 5c55 5edb 609b 6230 6813 6bbf 6c08 6fb1 -60 714e 7420 7530 7538 7551 7672
   7b4c 7b8b 7bad 7bc6 7e8f 8a6e 8f3e 8f49 923f 9293 9322 942b 96fb 985a 986b 991e 5207 622a 6298
   6d59 7664 7aca 7bc0 7d76 5360 5cbe 5e97 6f38 70b9 7c98 9711 9b8e 9ede 63a5 647a 8776 4e01 4e95
   4ead 505c 5075 5448 59c3 5b9a 5e40 5ead 5ef7 5f81 60c5 633a 653f 6574 65cc 6676 6678 67fe 6968
   6a89 6b63 6c40 6dc0 6de8 6e1f 6e5e 701e 70a1 738e 73fd 753a 775b 7887 798e 7a0b 7a7d 7cbe 7d8e
   8247 8a02 8aea 8c9e 912d 914a 91d8 9266 92cc 9320 9706 9756 -60 975c 9802 9f0e 5236 5291 557c
   5824 5e1d 5f1f 608c 63d0 68af 6fdf 796d 7b2c 81cd 85ba 88fd 8af8 8e44 918d 9664 969b 973d 984c
   9f4a 4fce 5146 51cb 52a9 5632 5f14 5f6b 63aa 64cd 65e9 6641 66fa 66f9 671d 689d 68d7 69fd 6f15
   6f6e 7167 71e5 722a 74aa 773a 7956 795a 79df 7a20 7a95 7c97 7cdf 7d44 7e70 8087 85fb 86a4 8a54
   8abf 8d99 8e81 9020 906d 91e3 963b 96d5 9ce5 65cf 7c07 8db3 93c3 5b58 5c0a 5352 62d9 731d 5027
   5b97 5f9e 60b0 616b 68d5 6dd9 742e 7a2e 7d42 7d9c 7e31 816b -60 8e2a 8e35 937e 9418 4f50 5750
   5de6 5ea7 632b 7f6a 4e3b 4f4f 4f8f 505a 59dd 80c4 546a 5468 55fe 594f 5b99 5dde 5eda 665d 6731
   67f1 682a 6ce8 6d32 6e4a 6f8d 70b7 73e0 7587 7c4c 7d02 7d2c 7da2 821f 86db 8a3b 8a85 8d70 8e8a
   8f33 9031 914e 9152 9444 99d0 7af9 7ca5 4fca 5101 51c6 57c8 5bef 5cfb 6659 6a3d 6d5a 6e96 6fec
   710c 756f 7ae3 8822 9021 9075 96cb 99ff 8301 4e2d 4ef2 8846 91cd 537d 6adb 696b 6c41 847a 589e
   618e 66fe 62ef 70dd 7511 75c7 7e52 84b8 8b49 8d08 4e4b 53ea -60 54ab 5730 5740 5fd7 6301 6307
   646f 652f 65e8 667a 679d 67b3 6b62 6c60 6c9a 6f2c 77e5 7825 7949 7957 7d19 80a2 8102 81f3 829d
   82b7 8718 8a8c f9fc 8d04 8dbe 9072 76f4 7a19 7a37 7e54 8077 5507 55d4 5875 632f 6422 6649 664b
   686d 699b 6b84 6d25 6eb1 73cd 7468 74a1 755b 75b9 76e1 771e 778b 79e6 7e09 7e1d 81fb 852f 8897
   8a3a 8cd1 8eeb 8fb0 9032 93ad 9663 9673 9707 4f84 53f1 59ea 5ac9 5e19 684e 74c6 75be 79e9 7a92
   81a3 86ed 8cea 8dcc 8fed 659f 6715 f9fd 57f7 6f57 7ddd 8f2f -60 93f6 96c6 5fb5 61f2 6f84 4e14
   4f98 501f 53c9 55df 5d6f 5dee 6b21 6b64 78cb 7b9a f9fe 8e49 8eca 906e 6349 643e 7740 7a84 932f
   947f 9f6a 64b0 6faf 71e6 74a8 74da 7ac4 7c12 7e82 7cb2 7e98 8b9a 8d0a 947d 9910 994c 5239 5bdf
   64e6 672d 7d2e 50ed 53c3 5879 6158+2 61fa 65ac 7ad9 8b92 8b96 5009 5021 5275 5531 5a3c 5ee0 5f70
   6134 655e 660c 6636 66a2 69cd 6ec4 6f32 7316 7621 7a93 8139 8259 83d6 84bc 50b5 57f0 5bc0 5be8
   5f69 63a1 7826 7db5 83dc 8521 91c7 91f5 518a 67f5 7b56 -60 8cac 51c4 59bb 60bd 8655 501c f9ff
   5254 5c3a 617d 621a 62d3 64f2 65a5 6ecc 7620 810a 8e60 965f 96bb 4edf 5343 5598 5929 5ddd 64c5
   6cc9 6dfa 7394 7a7f 821b 85a6 8ce4 8e10 9077 91e7 95e1 9621 97c6 51f8 54f2 5586 5fb9 64a4 6f88
   7db4 8f1f 8f4d 9435 50c9 5c16 6cbe 6dfb 751b 77bb 7c3d 7c64 8a79 8ac2 581e 59be 5e16 6377 7252
   758a 776b 8adc 8cbc 8f12 5ef3 6674 6df8 807d 83c1 8acb 9751 9bd6 fa00 5243 66ff 6d95 6eef 7de0
   8ae6 902e 905e 9ad4 521d 527f 54e8 6194 6284 62db 68a2 -60 6912 695a 6a35 7092 7126 785d 7901
   790e 79d2 7a0d 8096 8278 82d5 8349 8549 8c82 8d85 9162 918b 91ae 4fc3 56d1 71ed 77d7 8700 89f8
   5bf8 5fd6 6751 90a8 53e2 585a 5bf5 60a4 6181 6460 7e3d 8070 8525 9283 64ae 50ac 5d14 6700 589c
   62bd 63a8 690e 6978 6a1e 6e6b 76ba 79cb 82bb 8429 8acf 8da8 8ffd 9112 914b 919c 9310 9318 939a
   96db 9a36 9c0d 4e11 755c 795d 7afa 7b51 7bc9 7e2e 84c4 8e59 8e74 8ef8 9010 6625 693f 7443 51fa
   672e 9edc 5145 5fe0 6c96 87f2 885d 8877 60b4 81b5 8403 -60 8d05 53d6 5439 5634 5a36 5c31 708a
   7fe0 805a 8106 81ed 8da3 9189 9a5f 9df2 5074 4ec4 53a0 60fb 6e2c 5c64 4f88 5024 55e4 5cd9 5e5f
   6065 6894 6cbb 6dc4 71be 75d4 75f4 7661 7a1a 7a49 7dc7 7dfb 7f6e 81f4 86a9 8f1c 96c9 99b3 9f52
   5247 52c5 98ed 89aa 4e03 67d2 6f06 4fb5 5be2 6795 6c88 6d78 741b 7827 91dd 937c 87c4 79e4 7a31
   5feb 4ed6 54a4 553e 58ae 59a5 60f0 6253 62d6 6736 6955 8235 9640 99b1 99dd 502c 5353 5544 577c
   fa01 6258 fa02 64e2 666b 67dd 6fc1 6fef 7422 7438 8a17 -60 9438 5451 5606 5766 5f48 619a 6b4e
   7058 70ad 7dbb 8a95 596a 812b 63a2 7708 803d 8caa 5854 642d 69bb 5b95 5e11 6e6f fa03 8569 514c
   53f0 592a 6020 614b 6b86 6c70 6cf0 7b1e 80ce 82d4 8dc6 90b0 98b1 fa04 64c7 6fa4 6491 6504 514e
   5410 571f 8a0e 615f 6876 fa05 75db 7b52 7d71 901a 5806 69cc 817f 892a 9000 9839 5078 5957 59ac
   6295 900f 9b2a 615d 7279 95d6 5761 5a46 5df4 628a 64ad 64fa 6777 6ce2 6d3e 722c 7436 7834 7f77
   82ad 8ddb 9817 5224 5742 677f 7248 74e3 8ca9 8fa6 9211 -60 962a 516b 53ed 634c 4f69 5504 6096
   6557 6c9b 6d7f 724c 72fd 7a17 8987 8c9d 5f6d 6f8e 70f9 81a8 610e 4fbf 504f 6241 7247 7bc7 7de8
   7fe9 904d 97ad 9a19 8cb6 576a 5e73 67b0 840d 8a55 5420 5b16 5e63 5ee2 5f0a 6583 80ba 853d 9589
   965b 4f48 5305 530d 530f 5486 54fa 5703 5e03 6016 629b 62b1 6355 fa06 6ce1 6d66 75b1 7832 80de
   812f 82de 8461 84b2 888d 8912 900b 92ea 98fd 9b91 5e45 66b4 66dd 7011 7206 fa07 4ff5 527d 5f6a
   6153 6753 6a19 6f02 74e2 7968 8868 8c79 98c7 98c4 9a43 -60 54c1 7a1f 6953 8af7 8c4a 98a8 99ae
   5f7c 62ab 75b2 76ae 88ab 907f 9642 5339 5f3c 5fc5 6ccc 73cc 7562 758b 7b46 82fe 999d 4e4f 903c
   4e0b 4f55 53a6 590f 5ec8 6630 6cb3 7455 8377 8766 8cc0 9050 971e 9c15 58d1 5b78 8650 8b14 9db4
   5bd2 6068 608d 65f1 6c57 6f22 6fa3 701a 7f55 7ff0 9591+2 9650 97d3 5272 8f44 51fd 542b 54b8 5563
   558a 6abb 6db5 7dd8 8266 929c 9677 9e79 5408 54c8 76d2 86e4 95a4 95d4 965c 4ea2 4f09 59ee 5ae6
   5df7 6052 6297 676d 6841 6c86 6e2f 7f38 809b 822a -60 fa08+2 9805 4ea5 5055 54b3 5793 595a 5b69
   5bb3 61c8 6977 6d77 7023 87f9 89e3 8a72 8ae7 9082 99ed 9ab8 52be 6838 5016 5e78 674f 8347 884c
   4eab 5411 56ae 73e6 9115 97ff 9909 9957 9999 5653 589f 865b 8a31 61b2 6af6 737b 8ed2 6b47 96aa
   9a57 5955 7200 8d6b 9769 4fd4 5cf4 5f26 61f8 665b 6ceb 70ab 7384 73b9 73fe 7729 774d 7d43 7d62
   7e23 8237 8852 fa0a 8ce2 9249 986f 5b51 7a74 8840 9801 5acc 4fe0 5354 593e 5cfd 633e 6d79 72f9
   8105 8107 83a2 92cf 9830 4ea8 5144 5211 578b -60 5f62 6cc2 6ece 7005 7050 70af 7192 73e9 7469
   834a 87a2 8861 9008 90a2 93a3 99a8 516e 5f57 60e0 6167 66b3 8559 8e4a 91af 978b 4e4e 4e92 547c
   58d5 58fa 597d 5cb5 5f27 6236 6248 660a 6667 6beb 6d69 6dcf 6e56 6ef8 6f94 6fe0 6fe9 705d 72d0
   7425 745a 74e0 7693 795c 7cca 7e1e 80e1 82a6 846b 84bf 864e 865f 8774 8b77 8c6a 93ac 9800 9865
   60d1 6216 9177 5a5a 660f 6df7 6e3e 743f 9b42 5ffd 60da 7b0f 54c4 5f18 6c5e 6cd3 6d2a 70d8 7d05
   8679 8a0c 9d3b 5316 548c 5b05 6a3a 706b 7575 -60 798d 79be 82b1 83ef 8a71 8b41 8ca8 9774 fa0b
   64f4 652b 78ba+2 7a6b 4e38 559a 5950 5ba6 5e7b 60a3 63db 6b61 6665 6853 6e19 7165 74b0 7d08 9084
   9a69 9c25 6d3b 6ed1 733e 8c41 95ca 51f0 5e4c 5fa8 604d 60f6 6130 614c 6643+2 69a5 6cc1 6e5f 6ec9
   6f62 714c 749c 7687 7bc1 7c27 8352 8757 9051 968d 9ec3 532f 56de 5efb 5f8a 6062 6094 61f7 6666
   6703 6a9c 6dee 6fae 7070 736a 7e6a 81be 8334 86d4 8aa8 8cc4 5283 7372 5b96 6a6b 9404 54ee 5686
   5b5d 6548 6585 66c9 689f 6d8d 6dc6 -60 723b 80b4 9175 9a4d 4faf 5019 539a 540e 543c 5589 55c5
   5e3f 5f8c 673d 7166 73dd 9005 52db 52f3 5864 58ce 7104 718f 71fb 85b0 8a13 6688 85a8 55a7 6684
   714a 8431 5349 5599 6bc1 5f59 5fbd 63ee 6689 7147 8af1 8f1d 9ebe 4f11 643a 70cb 7566 8667 6064
   8b4e 9df8 5147 51f6 5308 6d36 80f8 9ed1 6615 6b23 7098 75d5 5403 5c79 7d07 8a16 6b20 6b3d 6b46
   5438 6070 6d3d 7fd5 8208 50d6 51de 559c 566b 56cd 59ec 5b09 5e0c 6199 6198 6231 665e 66e6 7199
   71b9+2 72a7 79a7 7a00 7fb2 8a70"

end Folio.Charset
