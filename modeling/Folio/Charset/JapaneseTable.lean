/-!
# Folio.Charset.JapaneseTable

Characters of the Japanese encodings.
-/

namespace Folio.Charset

/-- Characters of two bytes. The characters in the order of their
pointers, hexadecimal: `a` a character, `a+n` a run of `n` characters from `a`
on, `-n` a gap of `n` pointers. -/
def japaneseData : String :=
  "3000+3 ff0c ff0e 30fb ff1a+2 ff1f ff01 309b+2 b4 ff40 a8 ff3e ffe3 ff3f 30fd+2 309d+2 3003 4edd
   3005+3 30fc 2015 2010 ff0f ff3c ff5e 2225 ff5c 2026 2025 2018+2 201c+2 ff08+2 3014+2 ff3b ff3d
   ff5b ff5d 3008+a ff0b ff0d b1 d7 f7 ff1d 2260 ff1c ff1e 2266+2 221e 2234 2642 2640 b0 2032+2
   2103 ffe5 ff04 ffe0+2 ff05 ff03 ff06 ff0a ff20 a7 2606 2605 25cb 25cf 25ce 25c7 25c6 25a1 25a0
   25b3 25b2 25bd 25bc 203b 3012 2192 2190+2 2193 3013 -b 2208 220b 2286+2 2282+2 222a 2229 -8
   2227+2 ffe2 21d2 21d4 2200 2203 -b 2220 22a5 2312 2202 2207 2261 2252 226a+2 221a 223d 221d 2235
   222b+2 -7 212b 2030 266f 266d 266a 2020+2 b6 -4 25ef -f ff10+a -7 ff21+1a -6 ff41+1a -4 3041+53
   -b 30a1+56 -8 391+11 3a3+7 -8 3b1+11 3c3+7 -26 410+6 401 416+1a -f 430+6 451 436+1a -d 2500 2502
   250c 2510 2518 2514 251c 252c 2524 2534 253c 2501 2503 250f 2513 251b 2517 2523 2533 252b 253b
   254b 2520 252f 2528 2537 253f 251d 2530 2525 2538 2542 -1b6 2460+14 2160+a -1 3349 3314 3322
   334d 3318 3327 3303 3336 3351 3357 330d 3326 3323 332b 334a 333b 339c+3 338e+2 33c4 33a1 -8 337b
   301d 301f 2116 33cd 2121 32a4+5 3231+2 3239 337e 337d 337c 2252 2261 222b 222e 2211 221a 22a5
   2220 221f 22bf 2235 2229+2 -be 4e9c 5516 5a03 963f 54c0 611b 6328 59f6 9022 8475 831c 7a50 60aa
   63e1 6e25 65ed 8466 82a6 9bf5 6893 5727 65a1 6271 5b9b 59d0 867b 98f4 7d62 7dbe 9b8e 6216 7c9f
   88b7 5b89 5eb5 6309 6697 6848 95c7 978d 674f 4ee5 4f0a 4f4d 4f9d 5049 56f2 5937 59d4 5a01 5c09
   60df 610f 6170 6613 6905 70ba 754f 7570 79fb 7dad 7def 80c3 840e 8863 8b02 9055 907a 533b 4e95
   4ea5 57df 80b2 90c1 78ef 4e00 58f1 6ea2 9038 7a32 8328 828b 9c2f 5141 5370 54bd 54e1 56e0 59fb
   5f15 98f2 6deb 80e4 852d 9662 9670 96a0 97fb 540b 53f3 5b87 70cf 7fbd 8fc2 96e8 536f 9d5c 7aba
   4e11 7893 81fc 6e26 5618 5504 6b1d 851a 9c3b 59e5 53a9 6d66 74dc 958f 5642 4e91 904b 96f2 834f
   990c 53e1 55b6 5b30 5f71 6620 66f3 6804 6c38 6cf3 6d29 745b 76c8 7a4e 9834 82f1 885b 8a60 92ed
   6db2 75ab 76ca 99c5 60a6 8b01 8d8a 95b2 698e 53ad 5186 5712 5830 5944 5bb4 5ef6 6028 63a9 63f4
   6cbf 6f14 708e 7114 7159 71d5 733f 7e01 8276 82d1 8597 9060 925b 9d1b 5869 65bc 6c5a 7525 51f9
   592e 5965 5f80 5fdc 62bc 65fa 6a2a 6b27 6bb4 738b 7fc1 8956 9d2c 9d0e 9ec4 5ca1 6c96 837b 5104
   5c4b 61b6 81c6 6876 7261 4e59 4ffa 5378 6069 6e29 7a4f 97f3 4e0b 5316 4eee 4f55 4f3d 4fa1 4f73
   52a0 53ef 5609 590f 5ac1 5bb6 5be1 79d1 6687 679c 67b6 6b4c 6cb3 706b 73c2 798d 79be 7a3c 7b87
   82b1 82db 8304 8377 83ef 83d3 8766 8ab2 5629 8ca8 8fe6 904e 971e 868a 4fc4 5ce8 6211 7259 753b
   81e5 82bd 86fe 8cc0 96c5 9913 99d5 4ecb 4f1a 89e3 56de 584a 58ca 5efb 5feb 602a 6094 6062 61d0
   6212 62d0 6539 9b41 6666 68b0 6d77 7070 754c 7686 7d75 82a5 87f9 958b 968e 8c9d 51f1 52be 5916
   54b3 5bb3 5d16 6168 6982 6daf 788d 84cb 8857 8a72 93a7 9ab8 6d6c 99a8 86d9 57a3 67ff 86ce 920e
   5283 5687 5404 5ed3 62e1 64b9 683c 6838 6bbb 7372 78ba 7a6b 899a 89d2 8d6b 8f03 90ed 95a3 9694
   9769 5b66 5cb3 697d 984d+2 639b 7b20 6a2b 6a7f 68b6 9c0d 6f5f 5272 559d 6070 62ec 6d3b 6e07 6ed1
   845b 8910 8f44 4e14 9c39 53f6 691b 6a3a 9784 682a 515c 7ac3 84b2 91dc 938c 565b 9d28 6822 8305
   8431 7ca5 5208 82c5 74e6 4e7e 4f83 51a0 5bd2 520a 52d8 52e7 5dfb 559a 582a 59e6 5b8c 5b98 5bdb
   5e72 5e79 60a3 611f 6163 61be 63db 6562 67d1 6853 68fa 6b3e 6b53 6c57 6f22 6f97 6f45 74b0 7518
   76e3 770b 7aff 7ba1 7c21 7de9 7f36 7ff0 809d 8266 839e 89b3 8acc 8cab 9084 9451 9593 9591 95a2
   9665 97d3 9928 8218 4e38 542b 5cb8 5dcc 73a9 764c 773c 5ca9 7feb 8d0b 96c1 9811 9854 9858 4f01
   4f0e 5371 559c 5668 57fa 5947 5b09 5bc4 5c90 5e0c 5e7e 5fcc 63ee 673a 65d7 65e2 671f 68cb 68c4
   6a5f 5e30 6bc5 6c17 6c7d 757f 7948 5b63 7a00 7d00 5fbd 898f 8a18 8cb4 8d77 8ecc 8f1d 98e2 9a0e
   9b3c 4e80 507d 5100 5993 5b9c 622f 6280 64ec 6b3a 72a0 7591 7947 7fa9 87fb 8abc 8b70 63ac 83ca
   97a0 5409 5403 55ab 6854 6a58 8a70 7827 6775 9ecd 5374 5ba2 811a 8650 9006 4e18 4e45 4ec7 4f11
   53ca 5438 5bae 5f13 6025 6551 673d 6c42 6c72 6ce3 7078 7403 7a76 7aae 7b08 7d1a 7cfe 7d66 65e7
   725b 53bb 5c45 5de8 62d2 62e0 6319 6e20 865a 8a31 8ddd 92f8 6f01 79a6 9b5a 4ea8 4eab+2 4f9b 4fa0
   50d1 5147 7af6 5171 51f6 5354 5321 537f 53eb 55ac 5883 5ce1 5f37 5f4a 602f 6050 606d 631f 6559
   6a4b 6cc1 72c2 72ed 77ef 80f8 8105 8208 854e 90f7 93e1 97ff 9957 9a5a 4ef0 51dd 5c2d 6681 696d
   5c40 66f2 6975 7389 6850 7c81 50c5 52e4 5747 5dfe 9326 65a4 6b23 6b3d 7434 7981 79bd 7b4b 7dca
   82b9 83cc 887f 895f 8b39 8fd1 91d1 541f 9280 4e5d 5036 53e5 533a 72d7 7396 77e9 82e6 8eaf 99c6
   99c8 99d2 5177 611a 865e 55b0 7a7a 5076 5bd3 9047 9685 4e32 6adb 91e7 5c51 5c48 6398 7a9f 6c93
   9774 8f61 7aaa 718a 9688 7c82 6817 7e70 6851 936c 52f2 541b 85ab 8a13 7fa4 8ecd 90e1 5366 8888
   7941 4fc2 50be 5211 5144 5553 572d 73ea 578b 5951 5f62 5f84 6075 6176 6167 61a9 63b2 643a 656c
   666f 6842 6e13 7566 7a3d 7cfb 7d4c 7d99 7e4b 7f6b 830e 834a 86cd 8a08 8a63 8b66 8efd 981a 9d8f
   82b8 8fce 9be8 5287 621f 6483 6fc0 9699 6841 5091 6b20 6c7a 6f54 7a74 7d50 8840 8a23 6708 4ef6
   5039 5026 5065 517c 5238 5263 55a7 570f 5805 5acc 5efa 61b2 61f8 62f3 6372 691c 6a29 727d 72ac
   732e 7814 786f 7d79 770c 80a9 898b 8b19 8ce2 8ed2 9063 9375 967a 9855 9a13 9e78 5143 539f 53b3
   5e7b 5f26 6e1b 6e90 7384 73fe 7d43 8237 8a00 8afa 9650 4e4e 500b 53e4 547c 56fa 59d1 5b64 5df1
   5eab 5f27 6238 6545 67af 6e56 72d0 7cca 88b4 80a1 80e1 83f0 864e 8a87 8de8 9237 96c7 9867 9f13
   4e94 4e92 4f0d 5348 5449 543e 5a2f 5f8c 5fa1 609f 68a7 6a8e 745a 7881 8a9e 8aa4 8b77 9190 4e5e
   9bc9 4ea4 4f7c 4faf 5019 5016 5149 516c 529f 52b9 52fe 539a 53e3 5411 540e 5589 5751 57a2 597d
   5b54 5b5d 5b8f 5de5 5de7 5df7 5e78 5e83 5e9a 5eb7 5f18 6052 614c 6297 62d8 63a7 653b 6602 6643
   66f4 676d 6821 6897 69cb 6c5f 6d2a 6d69 6e2f 6e9d 7532 7687 786c 7a3f 7ce0 7d05 7d18 7d5e 7db1
   8015 8003 80af 80b1 8154 818f 822a 8352 884c 8861 8b1b 8ca2 8cfc 90ca 9175 9271 783f 92fc 95a4
   964d 9805 9999 9ad8 9d3b 525b 52ab 53f7 5408 58d5 62f7 6fe0 8c6a 8f5f 9eb9 514b 523b 544a 56fd
   7a40 9177 9d60 9ed2 7344 6f09 8170 7511 5ffd 60da 9aa8 72db 8fbc 6b64 9803 4eca 56f0 5764 58be
   5a5a 6068 61c7 660f 6606 6839 68b1 6df7 75d5 7d3a 826e 9b42 4e9b 4f50 53c9 5506 5d6f 5de6 5dee
   67fb 6c99 7473 7802 8a50 9396 88df 5750 5ea7 632b 50b5 50ac 518d 6700 54c9 585e 59bb 5bb0 5f69
   624d 63a1 683d 6b73 6e08 707d 91c7 7280 7815 7826 796d 658e 7d30 83dc 88c1 8f09 969b 5264 5728
   6750 7f6a 8ca1 51b4 5742 962a 583a 698a 80b4 54b2 5d0e 57fc 7895 9dfa 4f5c 524a 548b 643e 6628
   6714 67f5 7a84 7b56 7d22 932f 685c 9bad 7b39 5319 518a 5237 5bdf 62f6 64ae 64e6 672d 6bba 85a9
   96d1 7690 9bd6 634c 9306 9bab 76bf 6652 4e09 5098 53c2 5c71 60e8 6492 6563 685f 71e6 73ca 7523
   7b97 7e82 8695 8b83 8cdb 9178 9910 65ac 66ab 6b8b 4ed5 4ed4 4f3a 4f7f 523a 53f8 53f2 55e3 56db
   58eb 59cb 59c9 59ff 5b50 5c4d 5e02 5e2b 5fd7 601d 6307 652f 5b5c 65af 65bd 65e8 679d 6b62 6b7b
   6c0f 7345 7949 79c1 7cf8 7d19 7d2b 80a2 8102 81f3 8996 8a5e 8a69 8a66 8a8c 8aee 8cc7 8cdc 96cc
   98fc 6b6f 4e8b 4f3c 4f8d 5150 5b57 5bfa 6148 6301 6642 6b21 6ecb 6cbb 723e 74bd 75d4 78c1 793a
   800c 8033 81ea 8494 8f9e 6c50 9e7f 5f0f 8b58 9d2b 7afa 8ef8 5b8d 96eb 4e03 53f1 57f7 5931 5ac9
   5ba4 6089 6e7f 6f06 75be 8cea 5b9f 8500 7be0 5072 67f4 829d 5c61 854a 7e1e 820e 5199 5c04 6368
   8d66 659c 716e 793e 7d17 8005 8b1d 8eca 906e 86c7 90aa 501f 52fa 5c3a 6753 707c 7235 914c 91c8
   932b 82e5 5bc2 5f31 60f9 4e3b 53d6 5b88 624b 6731 6b8a 72e9 73e0 7a2e 816b 8da3 9152 9996 5112
   53d7 546a 5bff 6388 6a39 7dac 9700 56da 53ce 5468 5b97 5c31 5dde 4fee 6101 62fe 6d32 79c0 79cb
   7d42 7e4d 7fd2 81ed 821f 8490 8846 8972 8b90 8e74 8f2f 9031 914b 916c 96c6 919c 4ec0 4f4f 5145
   5341 5f93 620e 67d4 6c41 6e0b 7363 7e26 91cd 9283 53d4 5919 5bbf 6dd1 795d 7e2e 7c9b 587e 719f
   51fa 8853 8ff0 4fca 5cfb 6625 77ac 7ae3 821c 99ff 51c6 5faa 65ec 696f 6b89 6df3 6e96 6f64 76fe
   7d14 5de1 9075 9187 9806 51e6 521d 6240 6691 66d9 6e1a 5eb6 7dd2 7f72 66f8 85af 85f7 8af8 52a9
   53d9 5973 5e8f 5f90 6055 92e4 9664 50b7 511f 52dd 5320 5347 53ec 54e8 5546 5531 5617 5968 59be
   5a3c 5bb5 5c06 5c0f 5c11 5c1a 5e84 5e8a 5ee0 5f70 627f 6284 62db 638c 6377 6607 660c 662d 6676
   677e 68a2 6a1f 6a35 6cbc 6d88 6e09 6e58 713c 7126 7167 75c7 7701 785d 7901 7965 79f0 7ae0 7b11
   7ca7 7d39 8096 83d6 848b 8549 885d 88f3 8a1f 8a3c 8a54 8a73 8c61 8cde 91a4 9266 937e 9418 969c
   9798 4e0a 4e08 4e1e 4e57 5197 5270 57ce 5834 58cc 5b22 5e38 60c5 64fe 6761 6756 6d44 72b6 7573
   7a63 84b8 8b72 91b8 9320 5631 57f4 98fe 62ed 690d 6b96 71ed 7e54 8077 8272 89e6 98df 8755 8fb1
   5c3b 4f38 4fe1 4fb5 5507 5a20 5bdd 5be9 5fc3 614e 632f 65b0 664b 68ee 699b 6d78 6df1 7533 75b9
   771f 795e 79e6 7d33 81e3 82af 85aa 89aa 8a3a 8eab 8f9b 9032 91dd 9707 4eba 4ec1 5203 5875 58ec
   5c0b 751a 5c3d 814e 8a0a 8fc5 9663 976d 7b25 8acf 9808 9162 56f3 53a8 9017 5439 5782 5e25 63a8
   6c34 708a 7761 7c8b 7fe0 8870 9042 9154 9310 9318 968f 745e 9ac4 5d07 5d69 6570 67a2 8da8 96db
   636e 6749 6919 83c5 9817 96c0 88fe 6f84 647a 5bf8 4e16 702c 755d 662f 51c4 5236 52e2 59d3 5f81
   6027 6210 653f 6574 661f 6674 68f2 6816 6b63 6e05 7272 751f 76db 7cbe 8056 58f0 88fd 897f 8aa0
   8a93 8acb 901d 9192 9752 9759 6589 7a0e 8106 96bb 5e2d 60dc 621a 65a5 6614 6790 77f3 7a4d 7c4d
   7e3e 810a 8cac 8d64 8de1 8e5f 78a9 5207 62d9 63a5 6442 6298 8a2d 7a83 7bc0 8aac 96ea 7d76 820c
   8749 4ed9 5148 5343 5360 5ba3 5c02 5c16 5ddd 6226 6247 64b0 6813 6834 6cc9 6d45 6d17 67d3 6f5c
   714e 717d 65cb 7a7f 7bad 7dda 7e4a 7fa8 817a 821b 8239 85a6 8a6e 8cce 8df5 9078 9077 92ad 9291
   9583 9bae 524d 5584 6f38 7136 5168 7985 7e55 81b3 7cce 564c 5851 5ca8 63aa 66fe 66fd 695a 72d9
   758f 758e 790e 7956 79df 7c97 7d20 7d44 8607 8a34 963b 9061 9f20 50e7 5275 53cc 53e2 5009 55aa
   58ee 594f 723d 5b8b 5c64 531d 60e3 60f3 635c 6383 633f 63bb 64cd 65e9 66f9 5de3 69cd 69fd 6f15
   71e5 4e89 75e9 76f8 7a93 7cdf 7dcf 7d9c 8061 8349 8358 846c 84bc 85fb 88c5 8d70 9001 906d 9397
   971c 9a12 50cf 5897 618e 81d3 8535 8d08 9020 4fc3 5074 5247 5373 606f 6349 675f 6e2c 8db3 901f
   4fd7 5c5e 8cca 65cf 7d9a 5352 8896 5176 63c3 5b58 5b6b 5c0a 640d 6751 905c 4ed6 591a 592a 6c70
   8a51 553e 5815 59a5 60f0 6253 67c1 8235 6955 9640 99c4 9a28 4f53 5806 5bfe 8010 5cb1 5e2f 5f85
   6020 614b 6234 66ff 6cf0 6ede 80ce 817f 82d4 888b 8cb8 9000 902e 968a 9edb 9bdb 4ee3 53f0 5927
   7b2c 918d 984c 9df9 6edd 7027 5353 5544 5b85 6258 629e 62d3 6ca2 6fef 7422 8a17 9438 6fc1 8afe
   8338 51e7 86f8 53ea 53e9 4f46 9054 8fb0 596a 8131 5dfd 7aea 8fbf 68da 8c37 72f8 9c48 6a3d 8ab0
   4e39 5358 5606 5766 62c5 63a2 65e6 6b4e 6de1 6e5b 70ad 77ed 7aef 7baa 7dbb 803d 80c6 86cb 8a95
   935b 56e3 58c7 5f3e 65ad 6696 6a80 6bb5 7537 8ac7 5024 77e5 5730 5f1b 6065 667a 6c60 75f4 7a1a
   7f6e 81f4 8718 9045 99b3 7bc9 755c 7af9 7b51 84c4 9010 79e9 7a92 8336 5ae1 7740 4e2d 4ef2 5b99
   5fe0 62bd 663c 67f1 6ce8 866b 8877 8a3b 914e 92f3 99d0 6a17 7026 732a 82e7 8457 8caf 4e01 5146
   51cb 558b 5bf5 5e16 5e33 5e81 5f14 5f35 5f6b 5fb4 61f2 6311 66a2 671d 6f6e 7252 753a 773a 8074
   8139 8178 8776 8abf 8adc 8d85 8df3 929a 9577 9802 9ce5 52c5 6357 76f4 6715 6c88 73cd 8cc3 93ae
   9673 6d25 589c 690e 69cc 8ffd 939a 75db 901a 585a 6802 63b4 69fb 4f43 6f2c 67d8 8fbb 8526 7db4
   9354 693f 6f70 576a 58f7 5b2c 7d2c 722a 540a 91e3 9db4 4ead 4f4e 505c 5075 5243 8c9e 5448 5824
   5b9a 5e1d 5e95 5ead 5ef7 5f1f 608c 62b5 633a 63d0 68af 6c40 7887 798e 7a0b 7de0 8247 8a02 8ae6
   8e44 9013 90b8 912d 91d8 9f0e 6ce5 6458 64e2 6575 6ef4 7684 7b1b 9069 93d1 6eba 54f2 5fb9 64a4
   8f4d 8fed 9244 5178 586b 5929 5c55 5e97 6dfb 7e8f 751c 8cbc 8ee2 985b 70b9 4f1d 6bbf 6fb1 7530
   96fb 514e 5410 5835 5857 59ac 5c60 5f92 6597 675c 6e21 767b 83df 8ced 9014 90fd 934d 7825 783a
   52aa 5ea6 571f 5974 6012 5012 515a 51ac 51cd 5200 5510 5854 5858 5957 5b95 5cf6 5d8b 60bc 6295
   642d 6771 6843 68bc 68df 76d7 6dd8 6e6f 6d9b 706f 71c8 5f53 75d8 7977 7b49 7b54 7b52 7cd6 7d71
   5230 8463 8569 85e4 8a0e 8b04 8c46 8e0f 9003 900f 9419 9676 982d 9a30 95d8 50cd 52d5 540c 5802
   5c0e 61a7 649e 6d1e 77b3 7ae5 80f4 8404 9053 9285 5ce0 9d07 533f 5f97 5fb3 6d9c 7279 7763 79bf
   7be4 6bd2 72ec 8aad 6803 6a61 51f8 7a81 6934 5c4a 9cf6 82eb 5bc5 9149 701e 5678 5c6f 60c7 6566
   6c8c 8c5a 9041 9813 5451 66c7 920d 5948 90a3 5185 4e4d 51ea 8599 8b0e 7058 637a 934b 6962 99b4
   7e04 7577 5357 6960 8edf 96e3 6c5d 4e8c 5c3c 5f10 8fe9 5302 8cd1 8089 8679 5eff 65e5 4e73 5165
   5982 5c3f 97ee 4efb 598a 5fcd 8a8d 6fe1 79b0 7962 5be7 8471 732b 71b1 5e74 5ff5 637b 649a 71c3
   7c98 4e43 5efc 4e4b 57dc 56a2 60a9 6fc3 7d0d 80fd 8133 81bf 8fb2 8997 86a4 5df4 628a 64ad 8987
   6777 6ce2 6d3e 7436 7834 5a46 7f75 82ad 99ac 4ff3 5ec3 62dd 6392 6557 676f 76c3 724c 80cc 80ba
   8f29 914d 500d 57f9 5a92 6885 6973 7164 72fd 8cb7 58f2 8ce0 966a 9019 877f 79e4 77e7 8429 4f2f
   5265 535a 62cd 67cf 6cca 767d 7b94 7c95 8236 8584 8feb 66dd 6f20 7206 7e1b 83ab 99c1 9ea6 51fd
   7bb1 7872 7bb8 8087 7b48 6ae8 5e61 808c 7551 7560 516b 9262 6e8c 767a 9197 9aea 4f10 7f70 629c
   7b4f 95a5 9ce9 567a 5859 86e4 96bc 4f34 5224 534a 53cd 53db 5e06 642c 6591 677f 6c3e 6c4e 7248
   72af 73ed 7554 7e41 822c 85e9 8ca9 7bc4 91c6 7169 9812 98ef 633d 6669 756a 76e4 78d0 8543 86ee
   532a 5351 5426 5983 5e87 5f7c 60b2 6249 6279 62ab 6590 6bd4 6ccc 75b2 76ae 7891 79d8 7dcb 7f77
   80a5 88ab 8ab9 8cbb 907f 975e 98db 6a0b 7c38 5099 5c3e 5fae 6787 6bd8 7435 7709 7f8e 9f3b 67ca
   7a17 5339 758b 9aed 5f66 819d 83f1 8098 5f3c 5fc5 7562 7b46 903c 6867 59eb 5a9b 7d10 767e 8b2c
   4ff5 5f6a 6a19 6c37 6f02 74e2 7968 8868 8a55 8c79 5edf 63cf 75c5 79d2 82d7 9328 92f2 849c 86ed
   9c2d 54c1 5f6c 658c 6d5c 7015 8ca7 8cd3 983b 654f 74f6 4e0d 4ed8 57e0 592b 5a66 5bcc 51a8 5e03
   5e9c 6016 6276 6577 65a7 666e 6d6e 7236 7b26 8150 819a 8299 8b5c 8ca0 8ce6 8d74 961c 9644 4fae
   64ab 6b66 821e 8461 856a 90e8 5c01 6953 98a8 847a 8557 4f0f 526f 5fa9 5e45 670d 798f 8179 8907
   8986 6df5 5f17 6255 6cb8 4ecf 7269 9b92 5206 543b 5674 58b3 61a4 626e 711a 596e 7c89 7cde 7d1b
   96f0 6587 805e 4e19 4f75 5175 5840 5e63 5e73 5f0a 67c4 4e26 853d 9589 965b 7c73 9801 50fb 58c1
   7656 78a7 5225 77a5 8511 7b86 504f 5909 7247 7bc7 7de8 8fba 8fd4 904d 4fbf 52c9 5a29 5f01 97ad
   4fdd 8217 92ea 5703 6355 6b69 752b 88dc 8f14 7a42 52df 5893 6155 620a 66ae 6bcd 7c3f 83e9 5023
   4ff8 5305 5446 5831 5949 5b9d 5cf0 5cef 5d29 5e96 62b1 6367 653e 65b9 670b 6cd5 6ce1 70f9 7832
   7e2b 80de 82b3 840c 84ec 8702 8912 8a2a 8c4a 90a6 92d2 98fd 9cf3 9d6c 4e4f 4ea1 508d 5256 574a
   59a8 5e3d 5fd8+2 623f 66b4 671b 67d0 68d2 5192 7d21 80aa 81a8 8b00 8c8c 8cbf 927e 9632 5420 982c
   5317 50d5 535c 58a8 64b2 6734 7267 7766 7a46 91e6 52c3 6ca1 6b86 5800 5e4c 5954 672c 7ffb 51e1
   76c6 6469 78e8 9b54 9ebb 57cb 59b9 6627 679a 6bce 54e9 69d9 5e55 819c 6795 9baa 67fe 9c52 685d
   4ea6 4fe3 53c8 62b9 672b 6cab 8fc4 4fad 7e6d 9ebf 4e07 6162 6e80 6f2b 8513 5473 672a 9b45 5df3
   7b95 5cac 5bc6 871c 6e4a 84d1 7a14 8108 5999 7c8d 6c11 7720 52d9 5922 7121 725f 77db 9727 9d61
   690b 5a7f 5a18 51a5 540d 547d 660e 76df 8ff7 9298 9cf4 59ea 725d 6ec5 514d 68c9 7dbf 7dec 9762
   9eba 6478 6a21 8302 5984 5b5f 6bdb 731b 76f2 7db2 8017 8499 5132 6728 9ed9 76ee 6762 52ff 9905
   5c24 623b 7c7e 8cb0 554f 60b6 7d0b 9580 5301 4e5f 51b6 591c 723a 8036 91ce 5f25 77e2 5384 5f79
   7d04 85ac 8a33 8e8d 9756 67f3 85ae 9453 6109 6108 6cb9 7652 8aed 8f38 552f 4f51 512a 52c7 53cb
   5ba5 5e7d 60a0 6182 63d6 6709 67da 6e67 6d8c 7336+2 7531 7950 88d5 8a98 904a 9091 90f5 96c4 878d
   5915 4e88 4f59 4e0e 8a89 8f3f 9810 50ad 5e7c 5996 5bb9 5eb8 63da 63fa 64c1 66dc 694a 69d8 6d0b
   6eb6 7194 7528 7aaf 7f8a 8000 8449 84c9 8981 8b21 8e0a 9065 967d 990a 617e 6291 6b32 6c83 6d74
   7fcc 7ffc 6dc0 7f85 87ba 88f8 6765 83b1 983c 96f7 6d1b 7d61 843d 916a 4e71 5375 5d50 6b04 6feb
   85cd 862d 89a7 5229 540f 5c65 674e 68a8 7406 7483 75e2 88cf 88e1 91cc 96e2 9678 5f8b 7387 7acb
   844e 63a0 7565 5289 6d41 6e9c 7409 7559 786b 7c92 9686 7adc 9f8d 4fb6 616e 65c5 865c 4e86 4eae
   50da 4e21 51cc 5bee 6599 6881 6dbc 731f 7642 77ad 7a1c 7ce7 826f 8ad2 907c 91cf 9675 9818 529b
   7dd1 502b 5398 6797 6dcb 71d0 7433 81e8 8f2a 96a3 9c57 9e9f 7460 5841 6d99 7d2f 985e 4ee4 4f36
   4f8b 51b7 52b1 5dba 601c 73b2 793c 82d3 9234 96b7 96f6 970a 9e97 9f62 66a6 6b74 5217 52a3 70c8
   88c2 5ec9 604b 6190 6f23 7149 7c3e 7df4 806f 84ee 9023 932c 5442 9b6f 6ad3 7089 8cc2 8def 9732
   52b4 5a41 5eca 5f04 6717 697c 6994 6d6a 6f0f 7262 72fc 7bed 8001 807e 874b 90ce 516d 9e93 7984
   808b 9332 8ad6 502d 548c 8a71 6b6a 8cc4 8107 60d1 67a0 9df2 4e99 4e98 9c10 8a6b 85c1 8568 6900
   6e7e 7897 8155 -2b 5f0c 4e10 4e15 4e2a 4e31 4e36 4e3c 4e3f 4e42 4e56 4e58 4e82 4e85 8c6b 4e8a
   8212 5f0d 4e8e 4e9e+3 4ea2 4eb0 4eb3 4eb6 4ece 4ecd 4ec4 4ec6 4ec2 4ed7 4ede 4eed 4edf 4ef7 4f09
   4f5a 4f30 4f5b 4f5d 4f57 4f47 4f76 4f88 4f8f 4f98 4f7b 4f69 4f70 4f91 4f6f 4f86 4f96 5118 4fd4
   4fdf 4fce 4fd8 4fdb 4fd1 4fda 4fd0 4fe4+2 501a 5028 5014 502a 5025 5005 4f1c 4ff6 5021 5029 502c
   4ffe 4fef 5011 5006 5043 5047 6703 5055 5050 5048 505a 5056 506c 5078 5080 509a 5085 50b4 50b2
   50c9+2 50b3 50c2 50d6 50de 50e5 50ed 50e3 50ee 50f9 50f5 5109 5101+2 5116 5115 5114 511a 5121
   513a 5137 513c 513b 513f+2 5152 514c 5154 5162 7af8 5169+2 516e 5180 5182 56d8 518c 5189 518f
   5191 5193 5195+2 51a4 51a6 51a2 51a9+3 51b3 51b1+2 51b0 51b5 51bd 51c5 51c9 51db 51e0 8655 51e9
   51ed 51f0 51f5 51fe 5204 520b 5214 520e 5227 522a 522e 5233 5239 524f 5244 524b+2 525e 5254 526a
   5274 5269 5273 527f 527d 528d 5294 5292 5271 5288 5291 8fa8 8fa7 52ac+2 52bc 52b5 52c1 52cd 52d7
   52de 52e3 52e6 98ed 52e0 52f3 52f5 52f8+2 5306 5308 7538 530d 5310 530f 5315 531a 5323 532f 5331
   5333 5338 5340 5346 5345 4e17 5349 534d 51d6 535e 5369 536e 5918 537b 5377 5382 5396 53a0 53a6
   53a5 53ae 53b0 53b6 53c3 7c12 96d9 53df 66fc 71ee 53ee 53e8 53ed 53fa 5401 543d 5440 542c+2 543c
   542e 5436 5429 541d 544e 548f 5475 548e 545f 5471 5477 5470 5492 547b 5480 5476 5484 5490 5486
   54c7 54a2 54b8 54a5 54ac 54c4 54c8 54a8 54ab 54c2 54a4 54be 54bc 54d8 54e5+2 550f 5514 54fd 54ee
   54ed 54fa 54e2 5539 5540 5563 554c 552e 555c 5545 5556+2 5538 5533 555d 5599 5580 54af 558a 559f
   557b 557e 5598 559e 55ae 557c 5583 55a9 5587 55a8 55da 55c5 55df 55c4 55dc 55e4 55d4 5614 55f7
   5616 55fe 55fd 561b 55f9 564e 5650 71df 5634 5636 5632 5638 566b 5664 562f 566c 566a 5686 5680
   568a 56a0 5694 568f 56a5 56ae 56b6 56b4 56c2 56bc 56c1 56c3 56c0 56c8 56ce 56d1 56d3 56d7 56ee
   56f9 5700 56ff 5704 5709 5708 570b 570d 5713 5718 5716 55c7 571c 5726 5737+2 574e 573b 5740 574f
   5769 57c0 5788 5761 577f 5789 5793 57a0 57b3 57a4 57aa 57b0 57c3 57c6 57d4 57d2+2 580a 57d6 57e3
   580b 5819 581d 5872 5821 5862 584b 5870 6bc0 5852 583d 5879 5885 58b9 589f 58ab 58ba 58de 58bb
   58b8 58ae 58c5 58d3 58d1 58d7 58d9 58d8 58e5 58dc 58e4 58df 58ef 58fa 58f9 58fb+3 5902 590a 5910
   591b 68a6 5925 592c+2 5932 5938 593e 7ad2 5955 5950 594e 595a 5958 5962 5960 5967 596c 5969 5978
   5981 599d 4f5e 4fab 59a3 59b2 59c6 59e8 59dc 598d 59d9+2 5a25 5a1f 5a11 5a1c 5a09 5a1a 5a40 5a6c
   5a49 5a35+2 5a62 5a6a 5a9a 5abc 5abe 5acb 5ac2 5abd 5ae3 5ad7 5ae6 5ae9 5ad6 5afa+2 5b0c 5b0b
   5b16 5b32 5ad0 5b2a 5b36 5b3e 5b43 5b45 5b40 5b51 5b55 5b5a+2 5b65 5b69 5b70 5b73 5b75 5b78 6588
   5b7a 5b80 5b83 5ba6 5bb8 5bc3 5bc7 5bc9 5bd4 5bd0 5be4 5be6 5be2 5bde 5be5 5beb 5bf0 5bf6 5bf3
   5c05 5c07+2 5c0d 5c13 5c20 5c22 5c28 5c38+2 5c41 5c46 5c4e 5c53 5c50 5c4f 5b71 5c6c 5c6e 4e62
   5c76 5c79 5c8c 5c91 5c94 599b 5cab 5cbb 5cb6 5cbc 5cb7 5cc5 5cbe 5cc7 5cd9 5ce9 5cfd 5cfa 5ced
   5d8c 5cea 5d0b 5d15 5d17 5d5c 5d1f 5d1b 5d11 5d14 5d22 5d1a 5d19 5d18 5d4c 5d52 5d4e 5d4b 5d6c
   5d73 5d76 5d87 5d84 5d82 5da2 5d9d 5dac 5dae 5dbd 5d90 5db7 5dbc 5dc9 5dcd 5dd3 5dd2 5dd6 5ddb
   5deb 5df2 5df5 5e0b 5e1a 5e19 5e11 5e1b 5e36+2 5e44 5e43 5e40 5e4e 5e57 5e54 5e5f 5e62 5e64 5e47
   5e75+2 5e7a 9ebc 5e7f 5ea0 5ec1+2 5ec8 5ed0 5ecf 5ed6 5ee3 5edd 5eda+2 5ee2 5ee1 5ee8+2 5eec
   5ef1 5ef3 5ef0 5ef4 5ef8 5efe 5f03 5f09 5f5d 5f5c 5f0b 5f11 5f16 5f29 5f2d 5f38 5f41 5f48 5f4c
   5f4e 5f2f 5f51 5f56+2 5f59 5f61 5f6d 5f73 5f77 5f83 5f82 5f7f 5f8a 5f88 5f91 5f87 5f9e 5f99 5f98
   5fa0 5fa8 5fad 5fbc 5fd6 5ffb 5fe4 5ff8 5ff1 5fdd 60b3 5fff 6021 6060 6019 6010 6029 600e 6031
   601b 6015 602b 6026 600f 603a 605a 6041 606a 6077 605f 604a 6046 604d 6063 6043 6064 6042 606c
   606b 6059 6081 608d 60e7 6083 609a 6084 609b 6096+2 6092 60a7 608b 60e1 60b8 60e0 60d3 60b4 5ff0
   60bd 60c6 60b5 60d8 614d 6115 6106 60f6+2 6100 60f4 60fa 6103 6121 60fb 60f1 610d+2 6147 613e
   6128 6127 614a 613f 613c 612c 6134 613d 6142 6144 6173 6177 6158+3 616b 6174 616f 6165 6171 615f
   615d 6153 6175 6199 6196 6187 61ac 6194 619a 618a 6191 61ab 61ae 61cc 61ca 61c9 61f7 61c8 61c3
   61c6 61ba 61cb 7f79 61cd 61e6 61e3 61f6 61fa 61f4 61ff 61fd 61fc 61fe 6200 6208+2 620d 620c 6214
   621b 621e 6221 622a 622e 6230 6232+2 6241 624e 625e 6263 625b 6260 6268 627c 6282 6289 627e
   6292+2 6296 62d4 6283 6294 62d7 62d1 62bb 62cf 62ff 62c6 64d4 62c8 62dc 62cc 62ca 62c2 62c7 629b
   62c9 630c 62ee 62f1 6327 6302 6308 62ef 62f5 6350 633e 634d 641c 634f 6396 638e 6380 63ab 6376
   63a3 638f 6389 639f 63b5 636b 6369 63be 63e9 63c0 63c6 63e3 63c9 63d2 63f6 63c4 6416 6434 6406
   6413 6426 6436 651d 6417 6428 640f 6467 646f 6476 644e 652a 6495 6493 64a5 64a9 6488 64bc 64da
   64d2 64c5 64c7 64bb 64d8 64c2 64f1 64e7 8209 64e0+2 62ac 64e3 64ef 652c 64f6 64f4 64f2 64fa 6500
   64fd 6518 651c 6505 6524 6523 652b 6534+2 6537 6536 6538 754b 6548 6556 6555 654d 6558 655e 655d
   6572 6578 6582+2 8b8a 659b 659f 65ab 65b7 65c3 65c6 65c1 65c4 65cc 65d2 65db 65d9 65e0+2 65f1
   6772 660a 6603 65fb 6773 6635+2 6634 661c 664f 6644 6649 6641 665e 665d 6664 6667+2 665f 6662
   6670 6683 6688 668e 6689 6684 6698 669d 66c1 66b9 66c9 66be 66bc 66c4 66b8 66d6 66da 66e0 663f
   66e6 66e9 66f0 66f5 66f7 670f 6716 671e 6726+2 9738 672e 673f 6736 6741 6738 6737 6746 675e 6760
   6759 6763+2 6789 6770 67a9 677c 676a 678c 678b 67a6 67a1 6785 67b7 67ef 67b4 67ec 67b3 67e9 67b8
   67e4 67de 67dd 67e2 67ee 67b9 67ce 67c6 67e7 6a9c 681e 6846 6829 6840 684d 6832 684e 68b3 682b
   6859 6863 6877 687f 689f 688f 68ad 6894 689d 689b 6883 6aae 68b9 6874 68b5 68a0 68ba 690f 688d
   687e 6901 68ca 6908 68d8 6922 6926 68e1 690c 68cd 68d4 68e7 68d5 6936 6912 6904 68d7 68e3 6925
   68f9 68e0 68ef 6928 692a 691a 6923 6921 68c6 6979 6977 695c 6978 696b 6954 697e 696e 6939 6974
   693d 6959 6930 6961 695e 695d 6981 696a 69b2 69ae 69d0 69bf 69c1 69d3 69be 69ce 5be8 69ca 69dd
   69bb 69c3 69a7 6a2e 6991 69a0 699c 6995 69b4 69de 69e8 6a02 6a1b 69ff 6b0a 69f9 69f2 69e7 6a05
   69b1 6a1e 69ed 6a14 69eb 6a0a 6a12 6ac1 6a23 6a13 6a44 6a0c 6a72 6a36 6a78 6a47 6a62 6a59 6a66
   6a48 6a38 6a22 6a90 6a8d 6aa0 6a84 6aa2+2 6a97 8617 6abb 6ac3 6ac2 6ab8 6ab3 6aac 6ade 6ad1 6adf
   6aaa 6ada 6aea 6afb 6b05 8616 6afa 6b12 6b16 9b31 6b1f 6b38 6b37 76dc 6b39 98ee 6b47 6b43 6b49
   6b50 6b59 6b54 6b5b 6b5f 6b61 6b78+2 6b7f+2 6b84 6b83 6b8d 6b98 6b95 6b9e 6ba4 6baa+2 6baf 6bb2
   6bb1 6bb3 6bb7 6bbc 6bc6 6bcb 6bd3 6bdf 6bec 6beb 6bf3 6bef 9ebe 6c08 6c13+2 6c1b 6c24 6c23 6c5e
   6c55 6c62 6c6a 6c82 6c8d 6c9a 6c81 6c9b 6c7e 6c68 6c73 6c92 6c90 6cc4 6cf1 6cd3 6cbd 6cd7 6cc5
   6cdd 6cae 6cb1 6cbe 6cba 6cdb 6cef 6cd9 6cea 6d1f 884d 6d36 6d2b 6d3d 6d38 6d19 6d35 6d33 6d12
   6d0c 6d63 6d93 6d64 6d5a 6d79 6d59 6d8e 6d95 6fe4 6d85 6df9 6e15 6e0a 6db5 6dc7 6de6 6db8 6dc6
   6dec 6dde 6dcc 6de8 6dd2 6dc5 6dfa 6dd9 6de4 6dd5 6dea 6dee 6e2d 6e6e 6e2e 6e19 6e72 6e5f 6e3e
   6e23 6e6b 6e2b 6e76 6e4d 6e1f 6e43 6e3a 6e4e 6e24 6eff 6e1d 6e38 6e82 6eaa 6e98 6ec9 6eb7 6ed3
   6ebd 6eaf 6ec4 6eb2 6ed4+2 6e8f 6ea5 6ec2 6e9f 6f41 6f11 704c 6eec 6ef8 6efe 6f3f 6ef2 6f31 6eef
   6f32 6ecc 6f3e 6f13 6ef7 6f86 6f7a 6f78 6f81 6f80 6f6f 6f5b 6ff3 6f6d 6f82 6f7c 6f58 6f8e 6f91
   6fc2 6f66 6fb3 6fa3 6fa1 6fa4 6fb9 6fc6 6faa 6fdf 6fd5 6fec 6fd4 6fd8 6ff1 6fee 6fdb 7009 700b
   6ffa 7011 7001 700f 6ffe 701b 701a 6f74 701d 7018 701f 7030 703e 7032 7051 7063 7099 7092 70af
   70f1 70ac 70b8 70b3 70ae 70df 70cb 70dd 70d9 7109 70fd 711c 7119 7165 7155 7188 7166 7162 714c
   7156 716c 718f 71fb 7184 7195 71a8 71ac 71d7 71b9 71be 71d2 71c9 71d4 71ce 71e0 71ec 71e7 71f5
   71fc 71f9 71ff 720d 7210 721b 7228 722d 722c 7230 7232 723b+2 723f+2 7246 724b 7258 7274 727e
   7282 7281 7287 7292 7296 72a2 72a7 72b9 72b2 72c3 72c6 72c4 72ce 72d2 72e2 72e0+2 72f9 72f7 500f
   7317 730a 731c 7316 731d 7334 732f 7329 7325 733e 734e+2 9ed8 7357 736a 7368 7370 7378 7375 737b
   737a 73c8 73b3 73ce 73bb 73c0 73e5 73ee 73de 74a2 7405 746f 7425 73f8 7432 743a 7455 743f 745f
   7459 7441 745c 7469 7470 7463 746a 7476 747e 748b 749e 74a7 74ca 74cf 74d4 73f1 74e0 74e3 74e7
   74e9 74ee 74f2 74f0+2 74f8 74f7 7504 7503 7505 750c 750e 750d 7515 7513 751e 7526 752c 753c 7544
   754d 754a 7549 755b 7546 755a 7569 7564 7567 756b 756d 7578 7576 7586+2 7574 758a 7589 7582 7594
   759a 759d 75a5 75a3 75c2 75b3 75c3 75b5 75bd 75b8 75bc 75b1 75cd 75ca 75d2 75d9 75e3 75de 75fe+2
   75fc 7601 75f0 75fa 75f2+2 760b 760d 7609 761f 7627 7620+3 7624 7634 7630 763b 7647+2 7646 765c
   7658 7661+2 7668+3 7667 766c 7670 7672 7676 7678 767c 7680 7683 7688 768b 768e 7696 7693 7699+2
   76b0 76b4 76b8+3 76c2 76cd 76d6 76d2 76de 76e1 76e5 76e7 76ea 862f 76fb 7708 7707 7704 7729 7724
   771e 7725+2 771b 7737+2 7747 775a 7768 776b 775b 7765 777f 777e 7779 778e 778b 7791 77a0 779e
   77b0 77b6 77b9 77bf 77bc+2 77bb 77c7 77cd 77d7 77da 77dc 77e3 77ee 77fc 780c 7812 7926 7820 792a
   7845 788e 7874 7886 787c 789a 788c 78a3 78b5 78aa 78af 78d1 78c6 78cb 78d4 78be 78bc 78c5 78ca
   78ec 78e7 78da 78fd 78f4 7907 7912 7911 7919 792c 792b 7940 7960 7957 795f 795a 7955 7953 797a
   797f 798a 799d 79a7 9f4b 79aa 79ae 79b3 79b9+2 79c9 79d5 79e7 79ec 79e1 79e3 7a08 7a0d 7a18+2
   7a20 7a1f 7980 7a31 7a3b 7a3e 7a37 7a43 7a57 7a49 7a61+2 7a69 9f9d 7a70 7a79 7a7d 7a88 7a97 7a95
   7a98 7a96 7aa9 7ac8 7ab0 7ab6 7ac5 7ac4 7abf 9083 7ac7 7aca 7acd 7acf 7ad5 7ad3 7ad9+2 7add
   7ae1+2 7ae6 7aed 7af0 7b02 7b0f 7b0a 7b06 7b33 7b18+2 7b1e 7b35 7b28 7b36 7b50 7b7a 7b04 7b4d
   7b0b 7b4c 7b45 7b75 7b65 7b74 7b67 7b70+2 7b6c 7b6e 7b9d 7b98 7b9f 7b8d 7b9c 7b9a 7b8b 7b92 7b8f
   7b5d 7b99 7bcb 7bc1 7bcc 7bcf 7bb4 7bc6 7bdd 7be9 7c11 7c14 7be6 7be5 7c60 7c00 7c07 7c13 7bf3
   7bf7 7c17 7c0d 7bf6 7c23 7c27 7c2a 7c1f 7c37 7c2b 7c3d 7c4c 7c43 7c54 7c4f 7c40 7c50 7c58 7c5f
   7c64 7c56 7c65 7c6c 7c75 7c83 7c90 7ca4 7cad 7ca2 7cab 7ca1 7ca8 7cb3 7cb2 7cb1 7cae 7cb9 7cbd
   7cc0 7cc5 7cc2 7cd8 7cd2 7cdc 7ce2 9b3b 7cef 7cf2 7cf4 7cf6 7cfa 7d06 7d02 7d1c 7d15 7d0a 7d45
   7d4b 7d2e 7d32 7d3f 7d35 7d46 7d73 7d56 7d4e 7d72 7d68 7d6e 7d4f 7d63 7d93 7d89 7d5b 7d8f 7d7d
   7d9b 7dba 7dae 7da3 7db5 7dc7 7dbd 7dab 7e3d 7da2 7daf 7ddc 7db8 7d9f 7db0 7dd8 7ddd 7de4 7dde
   7dfb 7df2 7de1 7e05 7e0a 7e23 7e21 7e12 7e31 7e1f 7e09 7e0b 7e22 7e46 7e66 7e3b 7e35 7e39 7e43
   7e37 7e32 7e3a 7e67 7e5d 7e56 7e5e 7e59+2 7e79 7e6a 7e69 7e7c 7e7b 7e83 7dd5 7e7d 8fae 7e7f
   7e88+2 7e8c 7e92 7e90 7e93+2 7e96 7e8e 7e9b+2 7f38 7f3a 7f45 7f4c+3 7f50+2 7f55 7f54 7f58 7f5f+2
   7f68+2 7f67 7f78 7f82 7f86 7f83 7f88 7f87 7f8c 7f94 7f9e 7f9d 7f9a 7fa3 7faf 7fb2 7fb9 7fae 7fb6
   7fb8 8b71 7fc5+2 7fca 7fd5 7fd4 7fe1 7fe6 7fe9 7ff3 7ff9 98dc 8006 8004 800b 8012 8018+2 801c
   8021 8028 803f 803b 804a 8046 8052 8058 805a 805f 8062 8068 8073 8072 8070 8076 8079 807d 807f
   8084 8086 8085 809b 8093 809a 80ad 5190 80ac 80db 80e5 80d9 80dd 80c4 80da 80d6 8109 80ef 80f1
   811b 8129 8123 812f 814b 968b 8146 813e 8153 8151 80fc 8171 816e 8165+2 8174 8183 8188 818a 8180
   8182 81a0 8195 81a4 81a3 815f 8193 81a9 81b0 81b5 81be 81b8 81bd 81c0 81c2 81ba 81c9 81cd 81d1
   81d9 81d8 81c8 81da 81df+2 81e7 81fa+2 81fe 8201+2 8205 8207 820a 820d 8210 8216 8229 822b 8238
   8233 8240 8259 8258 825d 825a 825f 8264 8262 8268 826a+2 822e 8271 8277+2 827e 828d 8292 82ab
   829f 82bb 82ac 82e1 82e3 82df 82d2 82f4 82f3 82fa 8393 8303 82fb 82f9 82de 8306 82dc 8309 82d9
   8335 8334 8316 8332 8331 8340 8339 8350 8345 832f 832b 8317+2 8385 839a 83aa 839f 83a2 8396 8323
   838e 8387 838a 837c 83b5 8373 8375 83a0 8389 83a8 83f4 8413 83eb 83ce 83fd 8403 83d8 840b 83c1
   83f7 8407 83e0 83f2 840d 8422 8420 83bd 8438 8506 83fb 846d 842a 843c 855a 8484 8477 846b 84ad
   846e 8482 8469 8446 842c 846f 8479 8435 84ca 8462 84b9 84bf 849f 84d9 84cd 84bb 84da 84d0 84c1
   84c6 84d6 84a1 8521 84ff 84f4 8517+2 852c 851f 8515 8514 84fc 8540 8563 8558 8548 8541 8602 854b
   8555 8580 85a4 8588 8591 858a 85a8 856d 8594 859b 85ea 8587 859c 8577 857e 8590 85c9 85ba 85cf
   85b9 85d0 85d5 85dd 85e5 85dc 85f9 860a 8613 860b 85fe 85fa 8606 8622 861a 8630 863f 864d 4e55
   8654 865f 8667 8671 8693 86a3 86a9+2 868b+2 86b6 86af 86c4 86c6 86b0 86c9 8823 86ab 86d4 86de
   86e9 86ec 86df 86db 86ef 8712 8706 8708 8700 8703 86fb 8711 8709 870d 86f9 870a 8734 873f 8737
   873b 8725 8729 871a 8760 875f 8778 874c 874e 8774 8757 8768 876e 8759 8753 8763 876a 8805 87a2
   879f 8782 87af 87cb 87bd 87c0 87d0 96d6 87ab 87c4 87b3 87c7 87c6 87bb 87ef 87f2 87e0 880f 880d
   87fe 87f6+2 880e 87d2 8811 8816 8815 8822 8821 8831 8836 8839 8827 883b 8844 8842 8852 8859 885e
   8862 886b 8881 887e 889e 8875 887d 88b5 8872 8882 8897 8892 88ae 8899 88a2 888d 88a4 88b0 88bf
   88b1 88c3+2 88d4 88d8+2 88dd 88f9 8902 88fc 88f4 88e8 88f2 8904 890c 890a 8913 8943 891e 8925
   892a+2 8941 8944 893b 8936 8938 894c 891d 8960 895e 8966 8964 896d 896a 896f 8974 8977 897e 8983
   8988 898a 8993 8998 89a1 89a9 89a6 89ac 89af 89b2 89ba 89bd 89bf+2 89da 89dc+2 89e7 89f4 89f8
   8a03 8a16 8a10 8a0c 8a1b 8a1d 8a25 8a36 8a41 8a5b 8a52 8a46 8a48 8a7c 8a6d 8a6c 8a62 8a85 8a82
   8a84 8aa8 8aa1 8a91 8aa5+2 8a9a 8aa3 8ac4 8acd 8ac2 8ada 8aeb 8af3 8ae7 8ae4 8af1 8b14 8ae0 8ae2
   8af7 8ade 8adb 8b0c 8b07 8b1a 8ae1 8b16 8b10 8b17 8b20 8b33 97ab 8b26 8b2b 8b3e 8b28 8b41 8b4c
   8b4f 8b4e 8b49 8b56 8b5b 8b5a 8b6b 8b5f 8b6c 8b6f 8b74 8b7d 8b80 8b8c 8b8e 8b92+2 8b96 8b99+2
   8c3a 8c41 8c3f 8c48 8c4c 8c4e 8c50 8c55 8c62 8c6c 8c78 8c7a 8c82 8c89 8c85 8c8a 8c8d+2 8c94 8c7c
   8c98 621d 8cad 8caa 8cbd 8cb2+2 8cae 8cb6 8cc8 8cc1 8ce4 8ce3 8cda 8cfd 8cfa+2 8d04+2 8d0a 8d07
   8d0f 8d0d 8d10 9f4e 8d13 8ccd 8d14 8d16 8d67 8d6d 8d71 8d73 8d81 8d99 8dc2 8dbe 8dba 8dcf 8dda
   8dd6 8dcc 8ddb 8dcb 8dea+2 8ddf 8de3 8dfc 8e08+2 8dff 8e1d+2 8e10 8e1f 8e42 8e35 8e30 8e34 8e4a
   8e47 8e49 8e4c 8e50 8e48 8e59 8e64 8e60 8e2a 8e63 8e55 8e76 8e72 8e7c 8e81 8e87 8e85 8e84 8e8b
   8e8a 8e93 8e91 8e94 8e99 8eaa 8ea1 8eac 8eb0 8ec6 8eb1 8ebe 8ec5 8ec8 8ecb 8edb 8ee3 8efc 8efb
   8eeb 8efe 8f0a 8f05 8f15 8f12 8f19 8f13 8f1c 8f1f 8f1b 8f0c 8f26 8f33 8f3b 8f39 8f45 8f42 8f3e
   8f4c 8f49 8f46 8f4e 8f57 8f5c 8f62+3 8f9c 8f9f 8fa3 8fad 8faf 8fb7 8fda 8fe5 8fe2 8fea 8fef 9087
   8ff4 9005 8ff9+2 9011 9015 9021 900d 901e 9016 900b 9027 9036 9035 9039 8ff8 904f+4 900e 9049
   903e 9056 9058 905e 9068 906f 9076 96a8 9072 9082 907d 9081 9080 908a 9089 908f 90a8 90af 90b1
   90b5 90e2 90e4 6248 90db 9102 9112 9119 9132 9130 914a 9156 9158 9163 9165 9169 9173 9172 918b
   9189 9182 91a2 91ab 91af 91aa 91b5 91b4 91ba 91c0+2 91c9 91cb 91d0 91d6 91df 91e1 91db 91fc
   91f5+2 921e 91ff 9214 922c 9215 9211 925e 9257 9245 9249 9264 9248 9295 923f 924b 9250 929c 9296
   9293 929b 925a 92cf 92b9 92b7 92e9 930f 92fa 9344 932e 9319 9322 931a 9323 933a 9335 933b 935c
   9360 937c 936e 9356 93b0 93ac+2 9394 93b9 93d6+2 93e8 93e5 93d8 93c3 93dd 93d0 93c8 93e4 941a
   9414 9413 9403 9407 9410 9436 942b 9435 9421 943a 9441 9452 9444 945b 9460 9462 945e 946a 9229
   9470 9475 9477 947d 945a 947c 947e 9481 947f 9582 9587 958a 9594 9596 9598+2 95a0 95a8 95a7 95ad
   95bc 95bb 95b9 95be 95ca 6ff6 95c3 95cd 95cc 95d5 95d4 95d6 95dc 95e1 95e5 95e2 9621 9628 962e+2
   9642 964c 964f 964b 9677 965c 965e 965d 965f 9666 9672 966c 968d 9698 9695 9697 96aa 96a7 96b1+2
   96b0 96b4 96b6 96b8+2 96ce 96cb 96c9 96cd 894d 96dc 970d 96d5 96f9 9704 9706 9708 9713 970e 9711
   970f 9716 9719 9724 972a 9730 9739 973d+2 9744 9746 9748 9742 9749 975c 9760 9764 9766 9768 52d2
   976b 9771 9779 9785 977c 9781 977a 9786 978b 978f+2 979c 97a8 97a6 97a3 97b3+2 97c3 97c6 97c8
   97cb 97dc 97ed 9f4f 97f2 7adf 97f6 97f5 980f 980c 9838 9824 9821 9837 983d 9846 984f 984b 986b
   986f+3 9874 9873 98aa 98af 98b1 98b6 98c4 98c3 98c6 98e9 98eb 9903 9909 9912 9914 9918 9921
   991d+2 9924 9920 992c 992e 993d+2 9942 9949 9945 9950 994b 9951+2 994c 9955 9997+2 99a5 99ad+2
   99bc 99df 99db 99dd 99d8 99d1 99ed+2 99f1+2 99fb 99f8 9a01 9a0f 9a05 99e2 9a19 9a2b 9a37 9a45
   9a42 9a40 9a43 9a3e 9a55 9a4d 9a5b 9a57 9a5f 9a62 9a65 9a64 9a69 9a6b 9a6a 9aad 9ab0 9abc 9ac0
   9acf 9ad1 9ad3+2 9ade+2 9ae2+2 9ae6 9aef 9aeb 9aee 9af4 9af1 9af7 9afb 9b06 9b18 9b1a 9b1f
   9b22+2 9b25 9b27+4 9b2e+2 9b32 9b44 9b43 9b4f 9b4d+2 9b51 9b58 9b74 9b93 9b83 9b91 9b96+2 9b9f+2
   9ba8 9bb4 9bc0 9bca 9bb9 9bc6 9bcf 9bd1+2 9be3 9be2 9be4 9bd4 9be1 9c3a 9bf2 9bf1 9bf0 9c15 9c14
   9c09 9c13 9c0c 9c06 9c08 9c12 9c0a 9c04 9c2e 9c1b 9c25 9c24 9c21 9c30 9c47 9c32 9c46 9c3e 9c5a
   9c60 9c67 9c76 9c78 9ce7 9cec 9cf0 9d09 9d08 9ceb 9d03 9d06 9d2a 9d26 9daf 9d23 9d1f 9d44 9d15
   9d12 9d41 9d3f 9d3e 9d46 9d48 9d5d+2 9d64 9d51 9d50 9d59 9d72 9d89 9d87 9dab 9d6f 9d7a 9d9a 9da4
   9da9 9db2 9dc4 9dc1 9dbb 9db8 9dba 9dc6 9dcf 9dc2 9dd9 9dd3 9df8 9de6 9ded 9def 9dfd 9e1a+2 9e1e
   9e75 9e79 9e7d 9e81 9e88 9e8b+2 9e92 9e95 9e91 9e9d 9ea5 9ea9 9eb8 9eaa 9ead 9761 9ecc 9ece+3
   9ed4 9edc 9ede 9edd 9ee0 9ee5 9ee8 9eef 9ef4 9ef6+2 9ef9 9efb+3 9f07+2 76b7 9f15 9f21 9f2c 9f3e
   9f4a 9f52 9f54 9f63 9f5f+3 9f66+2 9f6c 9f6a 9f77 9f72 9f76 9f95 9f9c 9fa0 582f 69c7 9059 7464
   51dc 7199 -1d0 7e8a 891c 9348 9288 84dc 4fc9 70bb 6631 68c8 92f9 66fb 5f45 4e28 4ee1 4efc 4f00
   4f03 4f39 4f56 4f92 4f8a 4f9a 4f94 4fcd 5040 5022 4fff 501e 5046 5070 5042 5094 50f4 50d8 514a
   5164 519d 51be 51ec 5215 529c 52a6 52c0 52db 5300 5307 5324 5372 5393 53b2 53dd fa0e 549c 548a
   54a9 54ff 5586 5759 5765 57ac 57c8 57c7 fa0f+2 589e 58b2 590b 5953 595b 595d 5963 59a4 59ba 5b56
   5bc0 752f 5bd8 5bec 5c1e 5ca6 5cba 5cf5 5d27 5d53 fa11 5d42 5d6d 5db8+2 5dd0 5f21 5f34 5f67 5fb7
   5fde 605d 6085 608a 60de 60d5 6120 60f2 6111 6137 6130 6198 6213 62a6 63f5 6460 649d 64ce 654e
   6600 6615 663b 6609 662e 661e 6624 6665 6657 6659 fa12 6673 6699 66a0 66b2 66bf 66fa 670e f929
   6766 67bb 6852 67c0 6801 6844 68cf fa13 6968 fa14 6998 69e2 6a30 6a6b 6a46 6a73 6a7e 6ae2 6ae4
   6bd6 6c3f 6c5c 6c86 6c6f 6cda 6d04 6d87 6d6f 6d96 6dac 6dcf 6df8 6df2 6dfc 6e39 6e5c 6e27 6e3c
   6ebf 6f88 6fb5 6ff5 7005 7007 7028 7085 70ab 710f 7104 715c 7146+2 fa15 71c1 71fe 72b1 72be 7324
   fa16 7377 73bd 73c9 73d6 73e3 73d2 7407 73f5 7426 742a 7429 742e 7462 7489 749f 7501 756f 7682
   769c 769e 769b 76a6 fa17 7746 52af 7821 784e 7864 787a 7930 fa18+3 7994 fa1b 799b 7ad1 7ae7 fa1c
   7aeb 7b9e fa1d 7d48 7d5c 7db7 7da0 7dd6 7e52 7f47 7fa1 fa1e 8301 8362 837f 83c7 83f6 8448 84b4
   8553 8559 856b fa1f 85b0 fa20+2 8807 88f5 8a12 8a37 8a79 8aa7 8abe 8adf fa22 8af6 8b53 8b7f 8cf0
   8cf4 8d12 8d76 fa23 8ecf fa24+2 9067 90de fa26 9115 9127 91da 91d7 91de 91ed+2 91e4+2 9206 9210
   920a 923a 9240 923c 924e 9259 9251 9239 9267 92a7 9277+2 92e7 92d7 92d9 92d0 fa27 92d5 92e0 92d3
   9325 9321 92fb fa28 931e 92ff 931d 9302 9370 9357 93a4 93c6 93de 93f8 9431 9445 9448 9592 f9dc
   fa29 969d 96af 9733 973b 9743 974d 974f 9751 9755 9857 9865 fa2a+2 9927 fa2c 999e 9a4e 9ad9 9adc
   9b75 9b72 9b8f 9bb1 9bbb 9c00 9d70 9d6b fa2d 9e19 9ed1 -2 2170+a ffe2 ffe4 ff07 ff02 -bc
   e000+69d -bb 2170+a 2160+a ffe2 ffe4 ff07 ff02 3231 2116 2121 2235 7e8a 891c 9348 9288 84dc 4fc9
   70bb 6631 68c8 92f9 66fb 5f45 4e28 4ee1 4efc 4f00 4f03 4f39 4f56 4f92 4f8a 4f9a 4f94 4fcd 5040
   5022 4fff 501e 5046 5070 5042 5094 50f4 50d8 514a 5164 519d 51be 51ec 5215 529c 52a6 52c0 52db
   5300 5307 5324 5372 5393 53b2 53dd fa0e 549c 548a 54a9 54ff 5586 5759 5765 57ac 57c8 57c7 fa0f+2
   589e 58b2 590b 5953 595b 595d 5963 59a4 59ba 5b56 5bc0 752f 5bd8 5bec 5c1e 5ca6 5cba 5cf5 5d27
   5d53 fa11 5d42 5d6d 5db8+2 5dd0 5f21 5f34 5f67 5fb7 5fde 605d 6085 608a 60de 60d5 6120 60f2 6111
   6137 6130 6198 6213 62a6 63f5 6460 649d 64ce 654e 6600 6615 663b 6609 662e 661e 6624 6665 6657
   6659 fa12 6673 6699 66a0 66b2 66bf 66fa 670e f929 6766 67bb 6852 67c0 6801 6844 68cf fa13 6968
   fa14 6998 69e2 6a30 6a6b 6a46 6a73 6a7e 6ae2 6ae4 6bd6 6c3f 6c5c 6c86 6c6f 6cda 6d04 6d87 6d6f
   6d96 6dac 6dcf 6df8 6df2 6dfc 6e39 6e5c 6e27 6e3c 6ebf 6f88 6fb5 6ff5 7005 7007 7028 7085 70ab
   710f 7104 715c 7146+2 fa15 71c1 71fe 72b1 72be 7324 fa16 7377 73bd 73c9 73d6 73e3 73d2 7407 73f5
   7426 742a 7429 742e 7462 7489 749f 7501 756f 7682 769c 769e 769b 76a6 fa17 7746 52af 7821 784e
   7864 787a 7930 fa18+3 7994 fa1b 799b 7ad1 7ae7 fa1c 7aeb 7b9e fa1d 7d48 7d5c 7db7 7da0 7dd6 7e52
   7f47 7fa1 fa1e 8301 8362 837f 83c7 83f6 8448 84b4 8553 8559 856b fa1f 85b0 fa20+2 8807 88f5 8a12
   8a37 8a79 8aa7 8abe 8adf fa22 8af6 8b53 8b7f 8cf0 8cf4 8d12 8d76 fa23 8ecf fa24+2 9067 90de fa26
   9115 9127 91da 91d7 91de 91ed+2 91e4+2 9206 9210 920a 923a 9240 923c 924e 9259 9251 9239 9267
   92a7 9277+2 92e7 92d7 92d9 92d0 fa27 92d5 92e0 92d3 9325 9321 92fb fa28 931e 92ff 931d 9302 9370
   9357 93a4 93c6 93de 93f8 9431 9445 9448 9592 f9dc fa29 969d 96af 9733 973b 9743 974d 974f 9751
   9755 9857 9865 fa2a+2 9927 fa2c 999e 9a4e 9ad9 9adc 9b75 9b72 9b8f 9bb1 9bbb 9c00 9d70 9d6b fa2d
   9e19 9ed1"

end Folio.Charset
