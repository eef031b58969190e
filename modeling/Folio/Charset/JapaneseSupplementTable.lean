/-!
# Folio.Charset.JapaneseSupplementTable

The supplementary characters of Japanese.
-/

namespace Folio.Charset

/-- Characters of three bytes. The characters in the order of their
pointers, hexadecimal: `a` a character, `a+n` a run of `n` characters from `a`
on, `-n` a gap of `n` pointers. -/
def japaneseSupplementData : String :=
  "-6c 2d8 2c7 b8 2d9 2dd af 2db 2da ff5e 384+2 -8 a1 a6 bf -26 ba aa a9 ae 2122 a4 2116 -167 386
   388+3 3aa -1 38c -1 38e 3ab -1 38f -4 3ac+4 3ca 390 3cc 3c2 3cd 3cb 3b0 3ce -23 402+b 40e+2 -23
   452+b 45e+2 -5e c6 110 -1 126 -1 132 -1 141 13f -1 14a d8 152 -1 166 de -10 e6 111 f0 127 131
   133 138 142 140 149 14b f8 153 df 167 fe -2e c1 c0 c4 c2 102 1cd 100 104 c5 c3 106 108 10c c7
   10a 10e c9 c8 cb ca 11a 116 112 118 -1 11c 11e 122 120 124 cd cc cf ce 1cf 130 12a 12e 128 134
   136 139 13d 13b 143 147 145 d1 d3 d2 d6 d4 1d1 150 14c d5 154 158 156 15a 15c 160 15e 164 162 da
   d9 dc db 16c 1d3 170 16a 172 16e 168 1d7 1db 1d9 1d5 174 dd 178 176 179 17d 17b -7 e1 e0 e4 e2
   103 1ce 101 105 e5 e3 107 109 10d e7 10b 10f e9 e8 eb ea 11b 117 113 119 1f5 11d 11f -1 121 125
   ed ec ef ee 1d0 -1 12b 12f 129 135 137 13a 13e 13c 144 148 146 f1 f3 f2 f6 f4 1d2 151 14d f5 155
   159 157 15b 15d 161 15f 165 163 fa f9 fc fb 16d 1d4 171 16b 173 16f 169 1d8 1dc 1da 1d6 175 fd
   ff 177 17a 17e 17c -17f 4e02 4e04+2 4e0c 4e12 4e1f 4e23+2 4e28 4e2b 4e2e+3 4e35 4e40+2 4e44 4e47
   4e51 4e5a 4e5c 4e63 4e68+2 4e74+2 4e79 4e7f 4e8d 4e96+2 4e9d 4eaf 4eb9 4ec3 4ed0 4eda+2 4ee0+3
   4ee8 4eef 4ef1 4ef3 4ef5 4efd+4 4f02+2 4f08 4f0b+2 4f12 4f15+3 4f19 4f2e 4f31 4f60 4f33 4f35
   4f37 4f39 4f3b 4f3e 4f40 4f42 4f48+2 4f4b+2 4f52 4f54 4f56 4f58 4f5f 4f63 4f6a 4f6c 4f6e 4f71
   4f77+4 4f7d+2 4f81+2 4f84+2 4f89+2 4f8c 4f8e 4f90 4f92+3 4f97 4f99+2 4f9e+2 4fb2 4fb7 4fb9
   4fbb+4 4fc0+2 4fc5+2 4fc8+2 4fcb+3 4fcf 4fd2 4fdc 4fe0 4fe2 4ff0 4ff2 4ffc+2 4fff+3 5004 5007
   500a 500c 500e 5010 5013 5017+2 501b+4 5022 5027 502e 5030 5032+2 5035 5040+3 5045+2 504a 504c
   504e 5051+3 5057 5059 505f+2 5062+2 5066+2 506a 506d 5070+2 503b 5081 5083+2 5086 508a 508e+3
   5092+3 5096 509b+2 509e+5 50aa 50af+2 50b9+2 50bd 50c0 50c3+2 50c7 50cc 50ce 50d0 50d3+2 50d8
   50dc+2 50df 50e2 50e4 50e6 50e8+2 50ef 50f1 50f6 50fa 50fe 5103 5106+3 510b+4 50f2 5110 5117
   5119 511b+4 5123 5127+2 512c+2 512f 5131 5133+3 5138+2 5142 514a 514f 5153 5155 5157+2 515f 5164
   5166 517e 5183+2 518b 518e 5198 519d 51a1 51a3 51ad 51b8 51ba 51bc 51be+2 51c2 51c8 51cf 51d1+3
   51d5 51d8 51de 51e2 51e5 51ee 51f2+3 51f7 5201+2 5205 5212+2 5215+2 5218 5222 5228 5231+2 5235
   523c 5245 5249 5255 5257+2 525a 525c 525f+3 5266 526e 5277+3 5280 5282 5285 528a 528c 5293
   5295+4 529a 529c 52a4+4 52af+2 52b6+3 52ba+2 52bd 52c0 52c4 52c6 52c8 52cc 52cf 52d1 52d4 52d6
   52db+2 52e1 52e5 52e8+3 52ec 52f0+2 52f4 52f6+2 5300 5303 530a+3 5311 5313 5318 531b+2 531e+2
   5325 5327+3 532b+3 5330 5332 5335 533c+3 5342 534c 534b 5359 535b 5361 5363 5365 536c+2 5372
   5379 537e 5383 5387+2 538e 5393+2 5399 539d 53a1 53a4 53aa+2 53af 53b2 53b4+2 53b7+2 53ba 53bd
   53c0 53c5 53cf 53d2+2 53d5 53da 53dd+2 53e0 53e6+2 53f5 5402 5413 541a 5421 5427+2 542a 542f
   5431 5434+2 5443+2 5447 544d 544f 545e 5462 5464 5466+2 5469 546b 546d+2 5474 547f 5481 5483
   5485 5488+2 548d 5491 5495+2 549c 549f 54a1 54a6+2 54a9+2 54ad+2 54b1 54b7 54b9+3 54bf 54c6 54ca
   54cd+2 54e0 54ea 54ec 54ef 54f6 54fc 54fe+4 5505 5508+2 550c+3 5515 552a+2 5532 5535+2 553b+3
   5541 5547 5549+2 554d 5550+2 5558 555a+2 555e 5560+2 5564 5566 557f 5581+2 5586 5588 558e+2
   5591+4 5597 55a3+2 55ad 55b2 55bf 55c1 55c3 55c6 55c9 55cb+2 55ce 55d1+3 55d7+2 55db 55de 55e2
   55e9 55f6 55ff 5605 5608 560a 560d+6 5619 562c 5630 5633 5635 5637 5639 563b+3 563f+3 5643+2
   5646 5649 564b 564d 564f 5654 565e 5660+4 5666 5669 566d 566f 5671+2 5675 5684+2 5688 568b+2
   5695 5699+2 569d+3 56a6+4 56ab+3 56b1 56b3 56b7 56be 56c5 56c9+3 56cf+2 56cc+2 56d9 56dc+2 56df
   56e1 56e4+5 56f1 56eb 56ed 56f6+2 5701+2 5707 570a 570c 5711 5715 571a+2 571d 5720 5722+4 5729+2
   572c 572e+2 5733+2 573d+3 5745+2 574c+2 5752 5762 5765 5767+2 576b 576d+5 5773+3 5777 5779+4
   577e 5781 5783 578c 5794 5797 5799+2 579c+4 57a1 5795 57a7+3 57ac 57b8 57bd 57c7+2 57cc 57cf
   57d5 57dd+2 57e4 57e6+2 57e9 57ed 57f0 57f5+2 57f8 57fd+3 5803+2 5808+2 57e1 580c+2 581b 581e+3
   5826+2 582d 5832 5839 583f 5849 584c+2 584f+2 5855 585f 5861 5864 5867+2 5878 587c 587f+3 5887+4
   588c+2 588f+2 5894 5896 589d 58a0+3 58a6 58a9 58b1+2 58c4 58bc 58c2 58c8 58cd+2 58d0 58d2 58d4
   58d6 58da 58dd 58e1+2 58e9 58f3 5905+2 590b+2 5912+3 8641 591d 5921 5923+2 5928 592f+2 5933
   5935+2 593f 5943 5946 5952+2 5959 595b 595d+3 5961 5963 596b 596d 596f 5972 5975+2 5979 597b+2
   598b+2 598e 5992 5995 5997 599f 59a4 59a7 59ad+4 59b3 59b7 59ba 59bc 59c1 59c3+2 59c8 59ca 59cd
   59d2 59dd+3 59e3+2 59e7 59ee+2 59f1+2 59f4 59f7 5a00 5a04 5a0c+3 5a12+2 5a1e 5a23+2 5a27+2 5a2a
   5a2d 5a30 5a44+2 5a47+2 5a4c 5a50 5a55 5a5e 5a63 5a65 5a67 5a6d 5a77 5a7a+2 5a7e 5a8b 5a90 5a93
   5a96 5a99 5a9c 5a9e+3 5aa2 5aa7 5aac 5ab1+3 5ab5 5ab8 5aba+2 5abf 5ac4 5ac6 5ac8 5acf 5ada 5adc
   5ae0 5ae5 5aea 5aee 5af5+2 5afd 5b00+2 5b08 5b17 5b34 5b19 5b1b 5b1d 5b21 5b25 5b2d 5b38 5b41
   5b4b+2 5b52 5b56 5b5e 5b68 5b6e+2 5b7c+4 5b81 5b84 5b86 5b8a 5b8e 5b90+2 5b93+2 5b96 5ba8+2
   5bac+2 5baf 5bb1+2 5bb7 5bba 5bbc 5bc0+2 5bcd 5bcf 5bd6+5 5be0 5bef 5bf1 5bf4 5bfd 5c0c 5c17
   5c1e+2 5c23 5c26 5c29 5c2b+2 5c2e 5c30 5c32 5c35+2 5c59+2 5c5c 5c62+2 5c67+3 5c6d 5c70 5c74+2
   5c7a+4 5c87+2 5c8a 5c8f 5c92 5c9d 5c9f+2 5ca2+2 5ca6 5caa 5cb2 5cb4+2 5cba 5cc9 5ccb 5cd2 5cdd
   5cd7 5cee 5cf1+2 5cf4 5d01 5d06 5d0d 5d12 5d2b 5d23+2 5d26+2 5d31 5d34 5d39 5d3d 5d3f 5d42+2
   5d46 5d48 5d55 5d51 5d59 5d4a 5d5f+4 5d64 5d6a 5d6d 5d70 5d79+2 5d7e+2 5d81 5d83 5d88 5d8a
   5d92+4 5d99 5d9b 5d9f+2 5da7 5dab 5db0 5db4 5db8+2 5dc3 5dc7 5dcb 5dd0 5dce 5dd8+2 5de0 5de4
   5de9 5df8+2 5e00 5e07 5e0d 5e12 5e14+2 5e18 5e1f+2 5e2e 5e28 5e32 5e35 5e3e 5e4b 5e50 5e49 5e51
   5e56 5e58 5e5b+2 5e5e 5e68 5e6a+5 5e70 5e80 5e8b 5e8e 5ea2 5ea4+2 5ea8 5eaa 5eac 5eb1 5eb3
   5ebd+3 5ec6 5ecc 5ecb 5ece 5ed1+2 5ed4+2 5edc 5ede 5ee5 5eeb 5f02 5f06+3 5f0e 5f19 5f1c+2 5f21+4
   5f28 5f2b+2 5f2e 5f30 5f34 5f36 5f3b 5f3d 5f3f+2 5f44+2 5f47 5f4d 5f50 5f54 5f58 5f5b 5f60
   5f63+2 5f67 5f6f 5f72 5f74+2 5f78 5f7a 5f7d+2 5f89 5f8d 5f8f 5f96 5f9c+2 5fa2 5fa7 5fab 5fa4
   5fac 5faf+3 5fb8 5fc4 5fc7+3 5fcb 5fd0+5 5fde 5fe1+2 5fe8+3 5fec+4 5ff2+2 5ff6 5ffa 5ffc 6007
   600a 600d 6013+2 6017+2 601a 601f 6024 602d 6033 6035 6040 6047+3 604c 6051 6054 6056+2 605d
   6061 6067 6071 607e+2 6082 6086 6088 608a 608e 6091 6093 6095 6098 609d+2 60a2 60a4+2 60a8
   60b0+2 60b7 60bb 60be 60c2 60c4 60c8+4 60ce+2 60d4+2 60d9 60db 60dd+2 60e2 60e5 60f2 60f5 60f8
   60fc+2 6102 6107 610a 610c 6110+5 6116+2 6119 611c 611e 6122 612a+2 6130+2 6135+3 6139 6141
   6145+2 6149 615e 6160 616c 6172 6178 617b+2 617f+3 6183+2 618b 618d 6192+2 6197+2 619c+2 619f+2
   61a5 61a8 61aa 61ad 61b8+2 61bc 61c0+3 61ce+2 61d5 61dc+4 61e1+2 61e7 61e9 61e5 61ec+2 61ef 6201
   6203+2 6207 6213 6215 621c 6220 6222+2 6227 6229 622b 6239 623d 6242+3 6246 624c 6250+3 6254
   6256 625a 625c 6264 626d 626f 6273 627a 627d 628d+4 62a6 62a8 62b3 62b6+2 62ba 62be+2 62c4 62ce
   62d5+2 62da 62ea 62f2 62f4 62fc+2 6303+2 630a+2 630d 6310 6313 6316 6318 6329+2 632d 6335+2 6339
   633c 6341+4 6346 634a+2 634e 6352+3 6358 635b 6365+2 636c+2 6371 6374+2 6378 637c+2 637f 6382
   6384 6387 638a 6390 6394+2 6399+2 639e 63a4 63a6 63ad+3 63bd 63c1 63c5 63c8 63ce 63d1 63d3+3
   63dc 63e0 63e5 63ea 63ec 63f2+2 63f5 63f8+2 6409+2 6410 6412 6414 6418 641e 6420 6422 6424+2
   6429+2 642f+2 6435 643d 643f 644b 644f 6451+4 645a+4 645f+3 6463 646d 6473+2 647b 647d 6485 6487
   648f+3 6498+2 649b 649d 649f 64a1 64a3 64a6 64a8 64ac 64b3 64bd+3 64c4 64c9+4 64ce 64d0+2 64d5
   64d7 64e4+2 64e9+2 64ed 64f0 64f5 64f7 64fb 64ff 6501 6504 6508+3 650f 6513+2 6516 6519 651b
   651e+2 6522 6526 6529 652e 6531 653a 653c+2 6543 6547 6549 6550 6552 6554 655f+2 6567 656b 657a
   657d 6581 6585 658a 6592 6595 6598 659d 65a0 65a3 65a6 65ae 65b2+3 65bf 65c2 65c8+2 65ce 65d0
   65d4 65d6 65d8 65df 65f0 65f2 65f4+2 65f9 65fe+3 6604 6608+2 660d 6611+2 6615+2 661d+2 6621+4
   6626 6629+4 662e 6630+2 6633 6639 6637 6640 6645+2 664a 664c 6651 664e 6657+3 665b+2 6660+2 66fb
   666a+3 667e 6673 6675 667f 6677+3 667b 6680 667c 668b+3 6690 6692 6699+4 669f+2 66a4 66ad 66b1+2
   66b5 66bb 66bf+2 66c2+2 66c8 66cc 66ce+2 66d4 66db 66df 66e8 66eb+2 66ee 66fa 6705 6707 670e
   6713 6719 671c 6720 6722 6733 673e 6745 6747+2 674c 6754+2 675d 6766 676c 676e 6774 6776 677b
   6781 6784 678e+2 6791 6793 6796 6798+2 679b 67b0+3 67b5 67bb+3 67f9 67c0 67c2+2 67c5 67c8+2 67d2
   67d7 67d9 67dc 67e1 67e6 67f0 67f2 67f6+2 6852 6814 6819 681d 681f 6828 6827 682c+2 682f+3 6833
   683b 683f 6844+2 684a 684c 6855 6857+2 685b 686b 686e+5 6875 6879+4 6882 6884 6886 6888 6896
   6898 689a 689c 68a1 68a3 68a5 68a9+2 68ae 68b2 68bb 68c5 68c8 68cc 68cf+3 68d3 68d6 68d9 68dc+2
   68e5 68e8 68ea+4 68f0+2 68f5+2 68fb+3 6906 6909+2 6910+2 6913 6916+2 6931 6933 6935 6938 693b
   6942 6945 6949 694e 6957 695b 6963+4 6968+2 696c 6970+3 697a+2 697f+2 698d 6992 6996 6998 69a1
   69a5+2 69a8 69ab 69ad 69af 69b7+2 69ba 69bc 69c5 69c8 69d1 69d6+2 69e2 69e5 69ee+2 69f1 69f3
   69f5 69fe 6a00+2 6a03 6a0f 6a11 6a15 6a1a 6a1d 6a20 6a24 6a28 6a30 6a32 6a34 6a37 6a3b 6a3e+2
   6a45+2 6a49+2 6a4e 6a50+3 6a55+2 6a5b 6a64 6a67 6a6a 6a71 6a73 6a7e 6a81 6a83 6a86+2 6a89 6a8b
   6a91 6a9b 6a9d+3 6aa5 6aab 6aaf+3 6ab4 6abd+3 6ac6 6ac9 6ac8 6acc 6ad0 6ad4+3 6adc+2 6ae4 6ae7
   6aec 6af0+3 6afc+2 6b02+2 6b06+2 6b09 6b0f+3 6b17 6b1b 6b1e 6b24 6b28 6b2b+2 6b2f 6b35+2 6b3b
   6b3f 6b46 6b4a 6b4d 6b52 6b56 6b58 6b5d 6b60 6b67 6b6b 6b6e 6b70 6b75 6b7d+2 6b82 6b85 6b97 6b9b
   6b9f+2 6ba2+2 6ba8+2 6bac+3 6bb0 6bb8+2 6bbd+2 6bc3+2 6bc9 6bcc 6bd6 6bda 6be1 6be3 6be6+2 6bee
   6bf1 6bf7 6bf9 6bff 6c02 6c04+2 6c09 6c0d+2 6c10 6c12 6c19 6c1f 6c26+3 6c2c 6c2e 6c33 6c35+2
   6c3a+2 6c3f 6c4a+2 6c4d 6c4f 6c52 6c54 6c59 6c5b+2 6c6b 6c6d 6c6f 6c74 6c76 6c78+2 6c7b 6c85+3
   6c89 6c94+2 6c97+2 6c9c 6c9f 6cb0 6cb2 6cb4 6cc2 6cc6 6ccd 6ccf+4 6cd4 6cd6 6cda 6cdc 6ce0 6ce7
   6ce9 6ceb+2 6cee 6cf2 6cf4 6d04 6d07 6d0a 6d0e+2 6d11 6d13 6d1a 6d26+3 6c67 6d2e+2 6d31 6d39
   6d3c 6d3f 6d57 6d5e+2 6d61 6d65 6d67 6d6f+2 6d7c 6d82 6d87 6d91+2 6d94 6d96+3 6daa 6dac 6db4
   6db7 6db9 6dbd 6dbf 6dc4 6dc8 6dca 6dce+2 6dd6 6ddb 6ddd 6ddf+2 6de2 6de5 6de9 6def+2 6df4 6df6
   6dfc 6e00 6e04 6e1e 6e22 6e27 6e32 6e36 6e39 6e3b+2 6e44+2 6e48+2 6e4b 6e4f 6e51+4 6e57 6e5c+3
   6e62+2 6e68 6e73 6e7b 6e7d 6e8d 6e93 6e99 6ea0 6ea7 6ead+2 6eb1 6eb3 6ebb 6ebf+3 6ec3 6ec7+2
   6eca 6ecd+3 6eeb 6eed+2 6ef9 6efb 6efd 6f04 6f08 6f0a 6f0c+2 6f16 6f18 6f1a+2 6f26 6f29+2 6f2f+2
   6f33 6f36 6f3b+2 6f2d 6f4f 6f51+3 6f57 6f59+2 6f5d+2 6f61+2 6f68 6f6c 6f7d+2 6f83 6f87+2 6f8b+3
   6f90 6f92+3 6f96 6f9a 6f9f+2 6fa5+4 6fae+3 6fb5+2 6fbc 6fc5 6fc7+2 6fca 6fda 6fde 6fe8+2 6ff0
   6ff5 6ff9 6ffc+2 7000 7005+3 700d 7017 7020 7023 702f 7034 7037 7039 703c 7043+2 7048+4 7054+2
   705d+2 704e 7064+2 706c 706e 7075+2 707e 7081 7085+2 7094+5 709b 70a4 70ab 70b0+2 70b4 70b7 70ca
   70d1 70d3+4 70d8 70dc 70e4 70fa 7103+5 710b+2 710f 711e 7120 712b 712d 712f+3 7138 7141 7145+3
   714a+2 7150 7152 7157 715a 715c 715e 7160 7168 7179 7180 7185 7187 718c 7192 719a+2 71a0 71a2
   71af+2 71b2+2 71ba 71bf+3 71c4 71cb+2 71d3 71d6 71d9+2 71dc 71f8 71fe 7200 7207+3 7213 7217 721a
   721d 721f 7224 722b 722f 7234 7238+2 7241+3 7245 724e+3 7253 7255+2 725a 725c 725e 7260 7263
   7268 726b 726e+2 7271 7277+2 727b+2 727f 7284 7289 728d+2 7293 729b 72a8 72ad+2 72b1 72b4 72be
   72c1 72c7 72c9 72cc 72d5+2 72d8 72df 72e5 72f3+2 72fa+2 72fe 7302 7304+2 7307 730b 730d 7312+2
   7318+2 731e 7322 7324 7327+2 732c 7331+2 7335 733a+2 733d 7343 734d 7350 7352 7356 7358 735d+4
   7366+2 7369 736b+2 736e+2 7371 7377 7379 737c 7380+2 7383 7385+2 738e 7390 7393 7395 7397+2 739c
   739e+3 73a2 73a5+2 73aa+2 73ad 73b5 73b7 73b9 73bc+2 73bf 73c5+2 73c9 73cb+2 73cf 73d2+2 73d6
   73d9 73dd 73e1 73e3 73e6+2 73e9 73f4+2 73f7 73f9+3 73fd 73ff+3 7404 7407 740a 7411 741a+2 7424
   7426 7428+a 7439 7440 7443+2 7446+2 744b 744d 7451+2 7457 745d 7462 7466+3 746b 746d+2 7471+2
   7480+2 7485+3 7489 748f+4 7498+3 749c 749f+3 74a3 74a6 74a8+4 74ae+2 74b1+2 74b5 74b9 74bb 74bf
   74c8+2 74cc 74d0 74d3 74d8 74da+2 74de+2 74e4 74e8 74ea+2 74ef 74f4 74fa+3 74ff 7506 7512 7516+2
   7520+2 7524 7527 7529+2 752f 7536 7539 753d+4 7543 7547+2 754e 7550 7552 7557 755e+2 7561 756f
   7571 7579+6 7581 7585 7590 7592+2 7595 7599 759c 75a2 75a4 75b4 75ba 75bf+3 75c4 75c6 75cc
   75ce+2 75d7 75dc 75df+3 75e4 75e7 75ec 75ee+2 75f1 75f9 7600 7602+3 7607+2 760a 760c 760f 7612+2
   7615+2 7619 761b+4 7623 7625+2 7629 762d 7632+2 7635 7638+3 763c 764a 7640+2 7643+3 7649 764b
   7655 7659 765f 7664+2 766d+3 7671 7674 7681 7685 768c+2 7695 769b+3 769f+2 76a2+7 76aa 76ad 76bd
   76c1 76c5 76c9 76cb+2 76ce 76d4 76d9 76e0 76e6 76e8 76ec 76f0+2 76f6 76f9 76fc 7700 7706 770a
   770e 7712 7714+2 7717 7719+2 771c 7722 7728 772d+3 7734+3 7739 773d+2 7742 7745+2 774a 774d+3
   7752 7756+2 775c 775e+3 7762 7764 7767 776a 776c 7770 7772+3 777a 777d 7780 7784 778c+2 7794+3
   779a 779f 77a2 77a7 77aa 77ae+2 77b1 77b5 77be 77c3 77c9 77d1+2 77d5 77d9 77de+3 77e4 77e6 77ea
   77ec 77f0+2 77f4 77f8 77fb 7805+2 7809 780d+2 7811 781d 7821+3 782d+2 7830 7835 7837 7843+2
   7847+2 784c 784e 7852 785c 785e 7860+2 7863+2 7868 786a 786e 787a 787e 788a 788f 7894 7898 78a1
   789d+3 78a4 78a8 78ac+2 78b0+4 78bb 78bd 78bf 78c7+3 78cc 78ce 78d2+2 78d5+2 78e4 78db 78df+3
   78e6 78ea 78f2+2 7900 78f6+2 78fa+2 78ff 7906 790c 7910 791a 791c 791e+3 7925 7927 7929 792d
   7931 7934+2 793b 793d 793f 7944+3 794a+2 794f 7951 7954 7958 795b+2 7967 7969 796b 7972 7979
   797b+2 797e 798b+2 7991 7993+4 7998 799b+2 79a1 79a8+2 79ab 79af 79b1 79b4 79b8 79bb 79c2 79c4
   79c7+2 79ca 79cf 79d4 79d6 79da 79dd+2 79e0 79e2 79e5 79ea+2 79ed 79f1 79f8 79fc 7a02+2 7a07
   7a09+2 7a0c 7a11 7a15 7a1b 7a1e 7a21 7a27 7a2b 7a2d 7a2f+2 7a34+2 7a38+3 7a44+2 7a47+2 7a4c
   7a55+2 7a59 7a5c+2 7a5f+2 7a65 7a67 7a6a 7a6d 7a75 7a78 7a7e 7a80 7a82 7a85+2 7a8a+2 7a90+2 7a94
   7a9e 7aa0 7aa3 7aac 7ab3 7ab5 7ab9 7abb+2 7ac6 7ac9 7acc 7ace 7ad1 7adb 7ae8+2 7aeb+2 7af1 7af4
   7afb 7afd+2 7b07 7b14 7b1f 7b23 7b27 7b29+3 7b2d+5 7b34 7b3d 7b3f+3 7b47 7b4e 7b55 7b60 7b64
   7b66 7b69+2 7b6d 7b6f 7b72+2 7b77 7b84 7b89 7b8e 7b90+2 7b96 7b9b 7b9e 7ba0 7ba5 7bac 7baf+2
   7bb2 7bb5+2 7bba+4 7bc2 7bc5 7bc8 7bca 7bd4 7bd6+2 7bd9+3 7be8 7bea 7bf2 7bf4+2 7bf8+3 7bfc 7bfe
   7c01+4 7c06 7c09 7c0b+2 7c0e+2 7c19 7c1b 7c20 7c25+2 7c28 7c2c 7c31 7c33+2 7c36 7c39+2 7c46 7c4a
   7c55 7c51+3 7c59+6 7c61 7c63 7c67 7c69 7c6d+2 7c70 7c72 7c79 7c7c+2 7c86+2 7c8f 7c94 7c9e 7ca0
   7ca6 7cb0 7cb6+2 7cba+3 7cbf 7cc4 7cc7+3 7ccd 7ccf 7cd3+3 7cd7 7cd9+2 7cdd 7ce6 7ce9 7ceb 7cf5
   7d03 7d07+3 7d0f 7d11+3 7d16 7d1d+2 7d23 7d26 7d2a 7d2d 7d31 7d3c+3 7d40+2 7d47+2 7d4d 7d51 7d53
   7d57 7d59+2 7d5c+2 7d65 7d67 7d6a 7d70 7d78 7d7a+2 7d7f 7d81+3 7d85+2 7d88 7d8b+3 7d91 7d96+2
   7d9d+2 7da6+2 7daa 7db3 7db6+2 7db9 7dc2+5 7dcc+3 7dd7 7dd9 7e00 7de2 7de5+2 7dea+2 7ded 7df1
   7df5+2 7df9+2 7e08 7e10+2 7e15 7e17 7e1c+2 7e20 7e27+2 7e2c+2 7e2f 7e33 7e36 7e3f 7e44+2 7e47
   7e4e 7e50 7e52 7e58 7e5f 7e61+2 7e65 7e6b 7e6e+2 7e73 7e78 7e7e 7e81 7e86+2 7e8a 7e8d 7e91 7e95
   7e98 7e9a 7e9d+2 7f3c 7f3b 7f3d+3 7f43+2 7f47 7f4f 7f52+2 7f5b+3 7f61 7f63+4 7f6d 7f71 7f7d+4
   7f8b 7f8d 7f8f+3 7f96+2 7f9c 7fa1+2 7fa6 7faa 7fad 7fb4 7fbc 7fbf+2 7fc3 7fc8 7fce+2 7fdb 7fdf
   7fe3 7fe5 7fe8 7fec 7fee+2 7ff2 7ffa 7ffd+3 8007+2 800a 800d+3 8011 8013+2 8016 801d+4 8024 8026
   802c 802e 8030 8034+2 8037 8039+2 803c 803e 8040 8044 8060 8064 8066 806d 8071 8075 8081 8088
   808e 809c 809e 80a6+2 80ab 80b8+2 80c8 80cd 80cf 80d2 80d4+2 80d7+2 80e0 80ed+2 80f0 80f2+2 80f6
   80f9+2 80fe 8103 810b 8116+3 811c 811e 8120 8124 8127 812c 8130 8135 813a 813c 8145 8147 814a
   814c 8152 8157 8160+2 8167+3 816d 816f 8177 8181 8190 8184+3 818b 818e 8196 8198 819b 819e 81a2
   81ae 81b2 81b4 81bb 81cb 81c3 81c5 81ca 81ce+2 81d5 81d7 81db 81dd+2 81e1 81e4 81eb+2 81f0+3
   81f5+2 81f8+2 81fd 81ff+2 8203 820f 8213+2 8219+2 821d 8221+2 8228 8232 8234 823a 8243+4 824b
   824e+2 8251 8256 825c 8260 8263 8267 826d 8274 827b 827d 827f+3 8283+2 8287 8289+2 828e 8291
   8294 8296 8298 829a+2 82a0+2 82a3+2 82a7+4 82ae 82b0 82b2 82b4 82b7 82ba 82bc 82be+2 82c6 82d0
   82d5 82da 82e0 82e2 82e4 82e8 82ea 82ed 82ef 82f6+2 82fd+2 8300+2 8307+2 830a+2 8354 831b 831d+3
   8321+2 832c+3 8330 8333 8337 833a 833c+2 8342+3 8347 834d+2 8351 8355+3 8370 8378 837d 837f+2
   8382 8384 8386 838d 8392 8394+2 8398+2 839b+3 83a6+2 83a9 83ac 83be+3 83c7 83c9 83cf+3 83d4 83dd
   8353 83e8 83ea 83f6 83f8+2 83fc 8401 8406 840a 840f 8411 8415 8419 83ad 842f 8439 8445 8447+2
   844a 844d 844f 8451+2 8456 8458+3 845c 8460 8464+2 8467 846a 8470 8473+2 8476 8478 847c+2 8481
   8485 8492+2 8495 849e 84a6 84a8+3 84af 84b1 84b4 84ba 84bd+2 84c0 84c2 84c7+2 84cc 84cf 84d3
   84dc 84e7 84ea 84ef+4 84f7 8532 84fa+2 84fd 8502+2 8507 850c 850e 8510 851c 851e 8522+4 8527
   852a+2 852f 8533+2 8536 853f 8546 854f+5 8556 8559 855c+7 8564 856b 856f 8579+3 857d 857f 8581
   8585+2 8589 858b+2 858f 8593 8598 859d 859f+2 85a2 85a5 85a7 85b4 85b6+3 85bc+4 85c2 85c7 85ca+2
   85ce 85ad 85d8 85da 85df+2 85e6 85e8 85ed 85f3 85f6 85fc 85ff+2 8604+2 860d+2 8610+3 8618+2 861b
   861e 8621 8627 8629 8636 8638 863a 863c+2 8640 8642 8646 8652+2 8656+4 865d 8660+5 8669 866c
   866f 8675+3 867a 868d 8691 8696 8698 869a 869c 86a1 86a6+3 86ad 86b1 86b3+3 86b7+3 86bf+3 86c3
   86c5 86d1+2 86d5 86d7 86da 86dc 86e0 86e3 86e5 86e7 8688 86fa 86fc+2 8704+2 8707 870b 870e+3
   8713+2 8719 871e+2 8721 8723 8728 872e+2 8731+2 8739+2 873c+3 8740 8743 8745 874d 8758 875d 8761
   8764+2 876f 8771+2 877b 8783+7 878b+2 8790 8793 8795 8797+3 879e 87a0 87a3 87a7 87ac+3 87b1 87b5
   87be+2 87c1 87c8+3 87ce 87d5+2 87d9+2 87dc 87df 87e2+3 87ea+2 87ed 87f1 87f3 87f8 87fa 87ff 8801
   8803 8806 8809+3 8810 8819 8812+3 8818 881a+3 881e+2 8828 882d+2 8830 8832 8835 883a 883c 8841
   8843 8845 8848+4 884e 8851 8855+2 8858 885a 885c 885f+2 8864 8869 8871 8879 887b 8880 8898
   889a+3 889f+2 88a8 88aa 88ba 88bd+2 88c0 88ca+5 88d1+3 88db 88de 88e7 88ef+3 88f5 88f7 8901 8906
   890d+3 8915+2 8918+3 891c 8920 8926+3 8930+3 8935 8939+2 893e 8940 8942 8945+2 8949 894f 8952
   8957 895a+3 8961+3 896b 896e 8970 8973 8975 897a+4 8989 898d 8990 8994+2 899b+2 899f+2 89a5 89b0
   89b4+4 89bc 89d4+5 89e5 89e9 89eb 89ed 89f1 89f3 89f6 89f9 89fd 89ff 8a04+2 8a07 8a0f 8a11+2
   8a14+2 8a1e 8a20 8a22 8a24 8a26 8a2b+2 8a2f 8a35 8a37 8a3d+2 8a40 8a43 8a45 8a47 8a49 8a4d+2
   8a53 8a56+3 8a5c+2 8a61 8a65 8a67 8a75+3 8a79+3 8a7e+3 8a83 8a86 8a8b 8a8f+2 8a92 8a96+2 8a99
   8a9f 8aa7 8aa9 8aae+2 8ab3 8ab6+2 8abb 8abe 8ac3 8ac6 8ac8+3 8ad1 8ad3+3 8ad7 8add 8adf 8aec
   8af0 8af4+3 8afc 8aff 8b05+2 8b0b 8b11 8b1c 8b1e+2 8b0a 8b2d 8b30 8b37 8b3c 8b42+5 8b48 8b52+3
   8b59 8b4d 8b5e 8b63 8b6d 8b76 8b78+2 8b7c 8b7e 8b81 8b84+2 8b8b 8b8d 8b8f 8b94+2 8b9c 8b9e+2
   8c38+2 8c3d+2 8c45 8c47 8c49 8c4b 8c4f 8c51 8c53+2 8c57+2 8c5b 8c5d 8c59 8c63+2 8c66 8c68+2 8c6d
   8c73 8c75+2 8c7b 8c7e 8c86+2 8c8b 8c90 8c92+2 8c99 8c9b+2 8ca4 8cb9+2 8cc5+2 8cc9 8ccb 8ccf 8cd6
   8cd5 8cd9 8cdd 8ce1 8ce8 8cec 8cef+2 8cf2 8cf5 8cf7+2 8cfe+2 8d01 8d03 8d09 8d12 8d17 8d1b 8d65
   8d69 8d6c 8d6e 8d7f 8d82 8d84 8d88 8d8d 8d90+2 8d95 8d9e+3 8da6 8dab+2 8daf 8db2 8db5 8db7 8db9
   8dbb 8dc0 8dc5+4 8dca 8dce 8dd1 8dd4+2 8dd7 8dd9 8de4+2 8de7 8dec 8df0 8dbc 8df1+2 8df4 8dfd
   8e01 8e04+3 8e0b 8e11 8e14 8e16 8e20+4 8e26+2 8e31 8e33 8e36+4 8e3d 8e40+2 8e4b 8e4d+3 8e54
   8e5b+4 8e61+2 8e69 8e6c+2 8e6f+3 8e79+3 8e82+2 8e89 8e90 8e92 8e95 8e9a+2 8e9d+2 8ea2 8ea7 8ea9
   8ead+2 8eb3 8eb5 8eba+2 8ec0+2 8ec3+2 8ec7 8ecf 8ed1 8ed4 8edc 8ee8 8eee 8ef0+2 8ef7 8ef9+2 8eed
   8f00 8f02 8f07+2 8f0f+2 8f16+3 8f1e 8f20+2 8f23 8f25 8f27+2 8f2c+3 8f34+4 8f3a 8f40+2 8f43 8f47
   8f4f 8f51+5 8f58 8f5d+2 8f65 8f9d 8fa0+2 8fa4+3 8fb5+2 8fb8 8fbe 8fc0+2 8fc6 8fca+2 8fcd 8fd0
   8fd2+2 8fd5 8fe0 8fe3+2 8fe8 8fee 8ff1 8ff5+2 8ffb 8ffe 9002 9004 9008 900c 9018 901b 9028+2
   902f 902a 902c+2 9033+2 9037 903f 9043+2 904c 905b 905d 9062 9066+2 906c 9070 9074 9079 9085
   9088 908b+2 908e 9090 9095 9097+3 909b 90a0+3 90a5 90b0 90b2+3 90b6 90bd 90cc 90be 90c3+3 90c7+2
   90d5 90d7+3 90dc+2 90df 90e5 90d2 90f6 90eb 90ef+2 90f4 90fe+3 9104+3 9108 910d 9110 9114 9116+3
   911a 911c 911e 9120 9125 9122+2 9127 9129 912e+2 9131 9134 9136+2 9139+2 913c+2 9143 9147+2 914f
   9153 9157 9159+3 9161 9164 9167 916d 9174 9179+3 9181 9183 9185+2 918a 918e 9191 9193+3 9198
   919e 91a1 91a6 91a8 91ac+3 91b0+4 91b6 91bb+3 91bf 91c2+2 91c5 91d3+2 91d7 91d9+2 91de 91e4+2
   91e9+2 91ec+6 91f7 91f9 91fb 91fd 9200+2 9204+4 9209+2 920c 9210 9212+2 9216 9218 921c+2 9223+4
   9228 922e+3 9233 9235+2 9238+3 923c 923e 9240 9242+2 9246+2 924a 924d+3 9251 9258+2 925c+2
   9260+2 9265 9267+3 926e+3 9275+5 927b+3 927f 9288+3 928d+2 9292 9297 9299 929f+2 92a4+2 92a7+2
   92ab 92af 92b2 92b6 92b8 92ba+4 92bf+5 92c5+4 92cb+4 92d0 92d3 92d5 92d7+3 92dc+2 92df+3 92e3
   92e5 92e7+2 92ec 92ee 92f0 92f9 92fb 92ff+2 9302 9308 930d 9311 9314+2 931c+4 9321 9324+2 9327
   9329+2 9333+2 9336+2 9347+3 9350+3 9355 9357+2 935a 935e 9364+2 9367 9369+2 936d 936f+3 9373+2
   9376 937a 937d 937f+4 9388 938a+2 938d 938f 9392 9395 9398 939b 939e 93a1 93a3+2 93a6 93a8 93ab
   93b4+3 93ba 93a9 93c1 93c4+4 93c9+5 93d3 93d9 93dc 93de+2 93e2 93e6+2 93f9 93f7+2 93fa+2 93fd
   9401+2 9404 9408+2 940d+3 9415+3 941f 942e+2 9431+4 943b 943f 943d 9443 9445 9448 944a 944c 9455
   9459 945c 945f 9461 9463 9468 946b 946d+3 9471+2 9484 9483 9578+2 957e 9584 9588 958c+3 959d+3
   95a1 95a6 95a9 95ab+2 95b4 95b6 95ba 95bd 95bf 95c6 95c8+2 95cb 95d0+4 95d9+2 95dd+4 95e4 95e6
   961d+2 9622 9624+3 962c 9631 9633 9637+4 963c+2 9641 9652 9654 9656+3 9661 966e 9674 967b+2
   967e+2 9681+4 9689 9691 9696 969a 969d 969f 96a4+3 96a9 96ae+2 96b3 96ba 96ca 96d2 5db2 96d8
   96da 96dd+3 96e9 96ef 96f1 96fa 9702+2 9705 9709 971a+2 971d 9721+3 9728 9731 9733 9741 9743
   974a 974e+2 9755 9757+2 975a+2 9763 9767 976a 976e 9773 9776+3 977b 977d 977f+2 9789 9795+3
   9799+2 979e+2 97a2 97ac 97ae 97b1+2 97b5+2 97b8+3 97bc 97be+2 97c1 97c4+2 97c7 97c9+2 97cc+3
   97d0+2 97d4 97d7+3 97dd+2 97e0 97db 97e1 97e4 97ef 97f1 97f4 97f7+2 97fa 9807 980a 9819 980d+2
   9814 9816 981c 981e 9820 9823 9826 982b 982e+3 9832+2 9835 9825 983e 9844 9847 984a 9851+3
   9856+2 9859+2 9862+2 9865+2 986a 986c 98ab 98ad+2 98b0 98b4 98b7+2 98ba+2 98bf 98c2 98c5 98c8
   98cc 98e1 98e3 98e5+3 98ea 98f3 98f6 9902 9907+2 9911 9915+3 991a+3 991f 9922 9926+2 992b 9931+5
   9939+4 9940+2 9946+3 994d+2 9954 9958+2 995b+2 995e+3 999b 999d 999f 99a6 99b0+3 99b5 99b9+2
   99bd 99bf 99c3 99c9 99d3+2 99d9+2 99dc 99de 99e7 99ea+3 99f0 99f4+2 99f9 99fd+2 9a02+3 9a0b+2
   9a10+2 9a16 9a1e 9a20 9a22+3 9a27 9a2d+2 9a33 9a35+2 9a38 9a47 9a41 9a44 9a4a+3 9a4e 9a51 9a54
   9a56 9a5d 9aaa 9aac 9aae+2 9ab2 9ab4+3 9ab9 9abb 9abe+2 9ac1 9ac3 9ac6 9ac8 9ace 9ad0 9ad2
   9ad5+3 9adb+2 9ae0 9ae4+2 9ae7 9ae9 9aec 9af2+2 9af5 9af9+2 9afd 9aff+7 9b08+2 9b0b+4 9b10 9b12
   9b16 9b19 9b1b+2 9b20 9b26 9b2b 9b2d 9b33+3 9b37 9b39+2 9b3d 9b48 9b4b+2 9b55+3 9b5b 9b5e 9b61
   9b63 9b65+2 9b68 9b6a+5 9b73 9b75 9b77+3 9b7f+2 9b84+4 9b89+3 9b8d 9b8f+2 9b94 9b9a 9b9d+2
   9ba6+2 9ba9 9bac 9bb0+3 9bb7+2 9bbb+2 9bbe+2 9bc1 9bc7+2 9bce 9bd0 9bd7+2 9bdd 9bdf 9be5 9be7
   9bea+2 9bef 9bf3 9bf7+4 9bfd 9bff+2 9c02 9c0b 9c0f 9c11 9c16 9c18+3 9c1c 9c1e 9c22+2 9c26+5 9c31
   9c35+3 9c3d 9c41 9c43+3 9c49+2 9c4e+3 9c53+2 9c56 9c58 9c5b 9c5d+3 9c63 9c69+2 9c5c 9c6b 9c68
   9c6e 9c70 9c72 9c75 9c77 9c7b 9ce6 9cf2 9cf7 9cf9 9d0b 9d02 9d11 9d17+2 9d1c+3 9d2f+2 9d32+3
   9d3a 9d3c 9d45 9d3d 9d42+2 9d47 9d4a 9d53+2 9d5f 9d63 9d62 9d65 9d69+3 9d70 9d76+2 9d7b+2 9d7e
   9d83+2 9d86 9d8a 9d8d+2 9d92+2 9d95+4 9da1 9daa 9dac 9dae 9db1 9db5 9db9 9dbc 9dbf 9dc3 9dc7
   9dc9+2 9dd4+4 9dda 9dde+3 9de5 9de7 9de9 9deb 9dee 9df0 9df3+2 9dfe 9e0a 9e02 9e07 9e0e 9e10+3
   9e15+2 9e19 9e1c+2 9e7a+3 9e80 9e82+4 9e87 9e8e+2 9e96 9e98 9e9b 9e9e 9ea4 9ea8 9eac 9eae+3
   9eb3+3 9ec6 9ec8 9ecb 9ed5 9edf 9ee4 9ee7 9eec+3 9ef0+3 9ef5 9ef8 9eff 9f02+2 9f09 9f0f+4 9f14
   9f16+2 9f19+3 9f1f 9f22 9f26 9f2a+2 9f2f 9f31+2 9f34 9f37 9f39+2 9f3c+2 9f3f 9f41 9f43+5 9f53
   9f55+4 9f5a 9f5d+2 9f68+2 9f6d+5 9f73 9f75 9f7a 9f7d 9f8f+4 9f94 9f96+2 9f9e 9fa1+3 9fa5"

end Folio.Charset
