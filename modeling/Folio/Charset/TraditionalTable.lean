/-!
# Folio.Charset.TraditionalTable

Characters of the traditional Chinese encoding.
-/

namespace Folio.Charset

/-- Characters of two bytes. The characters in the order of their
pointers, hexadecimal: `a` a character, `a+n` a run of `n` characters from `a`
on, `-n` a gap of `n` pointers. -/
def traditionalData : String :=
  "-3ae 43f0 4c32 4603 45a6 4578 27267 4d77 45b3 27cb1 4ce2 27cc5 3b95 4736 4744 4c47 4c40 242bf
   23617 27352 26e8b 270d2 4c57 2a351 474f 45da 4c85 27c6c 4d07 4aa4 46a1 26b23 7225 25a54 21a63
   23e06 23f61 664d 56fb -1 7d95 591d 28bb9 3df4 9734 27bef 5bdb 21d5e 5aa4 3625 29eb0 5ad1 5bb7
   5cfc 676e 8593 29945 7461 749d 3875 21d53 2369e 26021 3eec 258de 3af5 7afc 9f97 24161 2890d
   231ea 20a8a 2325e 430a 8484 9f96 942f 4930 8613 5896 974a 9218 79d0 7a32 6660 6a29 889d 744c
   7bc5 6782 7a2c 524f 9046 34e6 73c4 25db9 74c6 9fc7 57b3 492f 544c 4131 2368e 5818 7a72 27b65
   8b8f 46ae 26e88 4181 25d99 7bae 224bc 9fc8 224c1 224c9 224cc 9fc9 8504 235bb 40b4 9fca 44e1
   2adff 62c1 706e 9fcb -1f 31c0+5 2010c 31c5 200d1 200cd 31c6+2 200cb 21fe8 31c8 200ca 31c9+4
   2010e 31cd+2 100 c1 1cd c0 112 c9 11a c8 14c d3 1d1 d2 -1 1ebe -1 1ec0 ca 101 e1 1ce e0 251 113
   e9 11b e8 12b ed 1d0 ec 14d f3 1d2 f2 16b fa 1d4 f9 1d6 1d8 1da 1dc fc -1 1ebf -1 1ec1 ea 261
   23da+2 -54 2a3a9 21145 -1 650a -2 4e3d 6edd 9d4e 91df -2 27735 6491 4f1a 4f28 4fa8 5156 5174
   519c 51e4 52a1 52a8 533b 534e 53d1 53d8 56e2 58f0 5904 5907 5932 5934 5b66 5b9e+2 5c9a 5e86 603b
   6589 67fe 6804 6865 6d4e 70bc 7535 7ea4 7eac 7eba 7ec7 7ecf 7edf 7f06 7f37 827a 82cf 836f 89c6
   8bbe 8be2 8f66+2 8f6e 7411 7cfc 7dcd 6946 7ac9 5227 -4 918c 78b8 915e 80bc -1 8d0b 80f6 209e7 -2
   809f 9ec7 4ccd 9dc9 9e0c 4c3e 29df6 2700e 9e0a 2a133 35c1 -1 6e9a 823e 7519 -1 4911 9a6c 9a8f
   9f99 7987 2846c 21dca 205d0 22ae6 4e24 4e81 4e80 4e87 4ebf 4eeb 4f37 344c 4fbd 3e48 5003 5088
   347d 3493 34a5 5186 5905 51db 51fc 5205 4e89 5279 5290 5327 35c7 53a9 3551 53b0 3553 53c2 5423
   356d 3572 3681 5493 54a3 54b4 54b9 54d0 54ef 5518 5523 5528 3598 553f 35a5 35bf 55d7 35c5 27d84
   5525 -1 20c42 20d15 2512b 5590 22cc6 39ec 20341 8e46 24db8 294e5 4053 280be 777a 22c38 3a34 47d5
   2815d 269f2 24dea 64dd 20d7c 20fb4 20cd5 210f4 648d 8e7e 20e96 20c0b 20f64 22ca9 28256 244d3 -1
   20d46 29a4d 280e9 47f4 24ea7 22cc2 9ab2 3a67 295f4 3fed 3506 252c7 297d4 278c8 22d44 9d6e 9815
   -1 43d9 260a5 64b4 54e3 22d4c 22bca 21077 39fb 2106f 266da 26716 279a0 64ea 25052 20c43 8e68
   221a1 28b4c 20731 -1 480b 201a9 3ffa 5873 22d8d -1 245c8 204fc 26097 20f4c 20d96 5579 40bb 43ba
   -1 4ab4 22a66 2109d 81aa 98f5 20d9c 6379 39fe 22775 8dc0 56a1 647c 3e43 -1 2a601 20e09 22acf
   22cc9 -1 210c8 239c2 3992 3a06 2829b 3578 25e49 220c7 5652 20f31 22cb2 29720 34bc 6c3d 24e3b -2
   27574 22e8b 22208 2a65b 28ccd 20e7a 20c34 2681c 7f93 210cf 22803 22939 35fb 251e3 20e8c 20f8d
   20eaa 3f93 20f30 20d47 2114f 20e4c -1 20eab 20ba9 20d48 210c0 2113d 3ff9 22696 6432 20fad 233f4
   27639 22bce 20d7e+2 22c51 22c55 3a18 20e98 210c7 20f2e 2a632 26b50 28cd2 28d99 28cca 95aa 54cc
   82c4 55b9 -1 29ec3 9c26 9ab6 2775e 22dee 7140 816d 80ec 5c1c 26572 8134 3797 535f 280bd 91b6
   20efa 20e0f 20e77 20efb 35dd 24deb 3609 20cd6 56af 227b5 210c9 20e10 20e78 21078 21148 28207
   21455 20e79 24e50 22da4 5a54 2101d+2 210f5+2 579c 20e11 27694 282cd 20fb5 20e7b 2517e 3703 20fb6
   21180 252d8 2a2bd 249da 2183a 24177 2827c 5899 5268 361a 2573d 7bb2 5b68 4800 4b2c 9f27 49e7
   9c1f 9b8d 25b74 2313d 55fb 35f2 5689 4e28 5902 21bc1 2f878 9751 20086 4e5b 4ebb 353e 5c23 5f51
   5fc4 38fa 624c 6535 6b7a 6c35 6c3a 706c 722b 4e2c 72ad 248e9 7f52 793b 7cf9 7f53 2626a 34c1 -1
   2634b 8002 8080 26612 26951 535d 8864 89c1 278b2 8ba0 8d1d 9485 9578 957f 95e8 28e0f 97e6 9875
   98ce 98de 9963 29810 9c7c 9e1f 9ec4 6b6f f907 4e37 20087 961d 6237 94a2 -1 503b 6dfe 29c73 9fa6
   3dc9 888f 2414e 7077 5cf5 4b20 251cd 3559 25d30 6122 28a32 8fa7 91f6 7191 6719 73ba 23281 2a107
   3c8b 21980 4b10 78e4 7402 51ae 2870f 4009 6a63 2a2ba 4223 860f 20a6f 7a2a 29947 28aea 9755 704d
   5324 2207e 93f4 76d9 289e3 9fa7 77dd 4ea3 4ff0 50bc 4e2f 4f17 9fa8 5434 7d8b 5892 58d0 21db6
   5e92 5e99 5fc2 22712 658b 233f9 6919 6a43 23c63 6cff -1 7200 24505 738c 3edb 24a13 5b15 74b9
   8b83 25ca4 25695 7a93 7bec 7cc3 7e6c 82f8 8597 9fa9 8890 9faa 8eb9 9fab 8fcf 855f 99e0 9221 9fac
   28db9 2143f 4071 42a2 5a1a -3 9868 676b 4276 573d -1 85d6 2497b 82bf 2710d 4c81 26d74 5d7b 26b15
   26fbe 9fad+2 5b96 9faf 66e7 7e5b 6e57 79ca 3d88 44c3 23256 22796 439a 4536 -1 5cd5 23b1a 8af9
   5c78 3d12 23551 5d78 9fb2 7157 4558 240ec 21e23 4c77 3978 344a 201a4 26c41 8acc 4fb4 20239 59bf
   816c 9856 298fa 5f3b 20b9f -1 221c1 2896d 4102 46bb 29079 3f07 9fb3 2a1b5 40f8 37d6 46f7 26c46
   417c 286b2 273ff 456d 38d4 2549a 4561 451b 4d89 4c7b 4d76 45ea 3fc8 24b0f 3661 44de 44bd 41ed
   5d3e 5d48 5d56 3dfc 380f 5da4 5db9 3820 3838 5e42 5ebd 5f25 5f83 3908 3914 393f 394d 60d7 613d
   5ce5 3989 61b7 61b9 61cf 39b8 622c 6290 62e5 6318 39f8 56b1 3a03 63e2 63fb 6407 645a 3a4b 64c0
   5d15 5621 9f9f 3a97 6586 3abd 65ff 6653 3af2 6692 3b22 6716 3b42 67a4 6800 3b58 684a 6884 3b72
   3b71 3b7b 6909 6943 725c 6964 699f 6985 3bbc 69d6 3bdd 6a65 6a74 6a71 6a82 3bec 6a99 3bf2 6aab
   6ab5 6ad4 6af6 6b81 6bc1 6bea 6c75 6caa 3ccb 6d02 6d06 6d26 6d81 3cef 6da4 6db1 6e15 6e18 6e29
   6e86 289c0 6ebb 6ee2 6eda 9f7f 6ee8+2 6f24 6f34 3d46 23f41 6f81 6fbe 3d6a 3d75 71b7 5c99 3d8a
   702c 3d91 7050 7054 706f 707f 7089 20325 43c1 35f1 20ed8 23ed7 57be 26ed3 713e 257e0 364e 69a2
   28be9 5b74 7a49 258e1 294d9 7a65 7a7d 259ac 7abb 7ab0 7ac2+2 71d1 2648d 41ca 7ada 7add 7aea 41ef
   54b2 25c01 7b0b 7b55 7b29 2530e 25cfe 7ba2 7b6f 839c 25bb4 26c7f 7bd0 8421 7b92 7bb8 25d20 3dad
   25c65 8492 7bfa 7c06 7c35 25cc1 7c44 7c83 24882 7ca6 667d 24578 7cc9 7cc7 7ce6 7c74 7cf3 7cf5
   7cce 7e67 451d 26e44 7d5d 26ed6 748d 7d89 7dab 7135 7db3 7dd2 24057 26029 7de4 3d13 7df5 217f9
   7de5 2836d 7e1d 26121 2615a 7e6e 7e92 432b 946c 7e27 7f40+2 7f47 7936 262d0 99e1 7f97 26351 7fa3
   21661 20068 455c 23766 4503 2833a 7ffa 26489 8005 8008 801d 8028 802f 2a087 26cc3 803b+2 8061
   22714 4989 26626 23de3 266e8 6725 80a7 28a48 8107 811a 58b0 226f6 6c7f 26498 24fb8 64e7 2148a
   8218 2185e 6a53 24a65 24a95 447a 8229 20b0d 26a52 23d7e 4ff9 214fd 84e2 8362 26b0a 249a7 23530
   21773 23df8 82aa 691b 2f994 41db 854b 82d0 831a 20e16 217b4 36c1 2317d 2355a 827b 82e2 8318
   23e8b 26da3 26b05 26b97 235ce 3dbf 831d 55ec 8385 450b 26da5 83ac 83c1 83d3 347e 26ed4 6a57 855a
   3496 26e42 22eef 8458 25be4 8471 3dd3 44e4 6aa7 844a 23cb5 7958 84a8 26b96 26e77 26e43 84de 840f
   8391 44a0 8493 84e4 25c91 4240 25cc0 4543 8534 5af2 26e99 4527 8573 4516 67bf 8616 28625 2863b
   85c1 27088 8602 21582 270cd 2f9b2 456a 8628 3648 218a2 53f7 2739a 867e 8771 2a0f8 87ee 22c27
   87b1 87da 880f 5661 866c 6856 460f 8845+2 275e0 23db9 275e4 885e 889c 465b 88b4+2 63c1 88c5 7777
   2770f 8987 898a 89a6 89a9 89a7 89bc 28a25 89e7 27924 27abd 8a9c 7793 91fe 8a90 27a59 7ae9 27b3a
   23f8f 4713 27b38 717c 8b0c 8b1f 25430 25565 8b3f 8b4c+2 8aa9 24a7a 8b90 8b9b 8aaf 216df 4615
   884f 8c9b 27d54 27d8f 2f9d4 3725 27d53 8cd6 27d98 27dbd 8d12 8d03 21910 8cdb 705c 8d11 24cc9
   3ed0 8d77 8da9 28002 21014 2498a 3b7c 281bc 2710c 7ae7 8ead 8eb6 8ec3 92d4 8f19 8f2d 28365 28412
   8fa5 9303 2a29f 20a50 8fb3 492a 289de 2853d 23dbb 5ef8 23262 8ff9 2a014 286bc 28501 22325 3980
   26ed7 9037 2853c 27abe 9061 2856c 2860b 90a8 28713 90c4 286e6 90ae 90fd 9167 3af0 91a9 91c4 7cac
   28933 21e89 920e 6c9f 9241 9262 255b9 92b9 28ac6 23c9b 28b0c 255db 20d31 932c 936b 28ae1 28beb
   708f 5ac3 28ae2 28ae5 4965 9244 28bec 28c39 28bff 9373 945b 8ebc 9585 95a6 9426 95a0 6ff6 42b9
   2267a 286d8 2127c 23e2e 49df 6c1c 967b 9696 416c 96a3 26ed5 61da 96b6 78f5 28ae0 96bd 53cc 49a1
   26cb8 20274 26410 290af 290e5 24ad1 21915 2330a 9731 8642 9736 4a0f 453d 4585 24ae9 7075 5b41
   971b 975c 291d5 9757 5b4a 291eb 975f 9425 50d0 230b7 230bc 9789 979f 97b1 97be 97c0 97d2 97e0
   2546c 97ee 741c 29433 97ff 97f5 2941d 2797a 4ad1 9834 9833 984b 9866 3b0e 27175 3d51 20630 2415c
   25706 98ca 98b7 98c8 98c7 4aff 26d27 216d3 55b0 98e1 98e6 98ec 9378 9939 24a29 4b72 29857 29905
   99f5 9a0c 9a3b 9a10 9a58 25725 36c4 290b1 29bd5 9ae0 9ae2 29b05 9af4 4c0e 9b14 9b2d 28600 5034
   9b34 269a8 38c3 2307d 9b50 9b40 29d3e 5a45 21863 9b8e 2424b 9c02 9bff 9c0c 29e68 9dd4 29fb7
   2a192 2a1ab 2a0e1 2a123 2a1df 9d7e 9d83 2a134 9e0e 6888 9dc4 2215b 2a193 2a220 2193b 2a233 9d39
   2a0b9 2a2b4 9e90 9e95 9e9e 9ea2 4d34 9eaa 9eaf 24364 9ec1 3b60 39e5 3d1d 4f32 37be 28c2b 9f02
   9f08 4b96 9424 26da2 9f17 9f16 9f39 569f 568a 9f45 99b8 2908b 97f2 847f 9f62 9f69 7adc 9f8e 7216
   4bbe 24975 249bb 7177 249f8 24348 24a51 739e 28bda 218fa 799f 2897e 28e36 9369 93f3 28a44 92ec
   9381 93cb 2896c 244b9 7217 3eeb 7772 7a43 70d0 24473 243f8 717e 217ef 70a3 218be 23599 3ec7
   21885 2542f 217f8 3722 216fb 21839 36e1 21774 218d1 25f4b 3723 216c0 575b 24a25 213fe 212a8
   213c6 214b6 8503 236a6 8503 8455 24994 27165 23e31 2555c 23efb 27052 44f4 236ee 2999d 26f26 67f9
   3733 3c15 3de7 586c 21922 6810 4057 2373f 240e1 2408b 2410f 26c21 54cb 569e 266b1 5692 20fdf
   20ba8 20e0d 93c6 28b13 939c 4ef8 512b 3819 24436 4ebc 20465 2037f 4f4b 4f8a 25651 5a68 201ab
   203cb 3999 2030a 20414 3435 4f29 202c0 28eb3 20275 8ada 2020c 4e98 50cd 510d 4fa2 4f03 24a0e
   23e8a 4f42 502e 506c 5081 4fcc 4fe5 5058 50fc 5159 515b 515d+2 6e76 23595 23e39 23ebf 6d72 21884
   23e89 51a8 51c3 205e0 44dd 204a3 20492 20491 8d7a 28a9c 2070e 5259 52a4 20873 52e1 936e 467a
   718c 2438c 20c20 249ac 210e4 69d1 20e1d 7479 3ede 7499 7414 7456 7398 4b8e 24abc 2408d 53d0 3584
   720f 240c9 55b4 20345 54cd 20bc6 571d 925d 96f4 9366 57dd 578d 577f 363e 58cb 5a99 28a46 216fa
   2176f 21710 5a2c 59b8 928f 5a7e 5acf 5a12 25946 219f3 21861 24295 36f5 6d05 7443 5a21 25e83 5a81
   28bd7 20413 93e0 748c 21303 7105 4972 9408 289fb 93bd 37a0 5c1e 5c9e 5e5e 5e48 21996 2197c 23aee
   5ecd 5b4f 21903+2 3701 218a0 36dd 216fe 36d3 812a 28a47 21dba 23472 289a8 5f0c 5f0e 21927 217ab
   5a6b 2173b 5b44 8614 275fd 8860 607e 22860 2262b 5fdb 3eb8 225af 225be 29088 26f73 61c0 2003e
   20046 2261b 6199 6198 6075 22c9b 22d07 246d4 2914d 6471 24665 22b6a 3a29 22b22 23450 298ea 22e78
   6337 2a45b 64b6 6331 63d1 249e3 22d67 62a4 22ca1 643b 656b 6972 3bf4 2308e 232ad 24989 232ab
   550d 232e0 218d9 2943f 66ce 23289 231b3 3ae0 4190 25584 28b22 2558f 216fc 2555b 25425 78ee 23103
   2182a 23234 3464 2320f 23182 242c9 668e 26d24 666b 4b93 6630 27870 21deb 6663 232d2 232e1 661e
   25872 38d1 2383a 237bc 3b99 237a2 233fe 74d0 3b96 678f 2462a 68b6 681e 3bc4 6abe 3863 237d5
   24487 6a33 6a52 6ac9 6b05 21912 6511 6898 6a4c 3bd7 6a7a 6b57 23fc0 23c9a 93a0 92f2 28bea 28acb
   9289 2801e 289dc 9467 6da5 6f0b 249ec 6d67 23f7f 3d8f 6e04 2403c 5a3d 6e0a 5847 6d24 7842 713b
   2431a 24276 70f1 7250 7287 7294 2478f 24725 5179 24aa4 205eb 747a 23ef8 2365f 24a4a 24917 25fe1
   3f06 3eb1 24adf 28c23 23f35 60a7 3ef3 74cc 743c 9387 7437 449f 26dea 4551 7583 3f63 24cd9 24d06
   3f58 7555 7673 2a5c6 3b19 7468 28acc 249ab 2498e 3afb 3dcd 24a4e 3eff 249c5 248f3 91fa 5732 9342
   28ae3 21864 50df 25221 251e7 7778 23232 770e+2 777b 24697 23781 3a5e 248f0 7438 749b 3ebf 24aba
   24ac7 40c8 24a96 261ae 9307 25581 781e 788d 7888 78d2 73d0 7959 27741 256e3 410e 799b 8496 79a5
   6a2d 23efa 7a3a 79f4 416e 216e6 4132 9235 79f1 20d4c 2498c 20299 23dba 2176e 3597 556b 3570 36aa
   201d4 20c0d 7ae2 5a59 226f5 25aaf 25a9c 5a0d 2025b 78f0 5a2a 25bc6 7afe 41f9 7c5d 7c6d 4211
   25bb3 25ebc 25ea6 7ccd 249f9 217b0 7c8e 7c7c 7cae 6ab2 7ddc 7e07 7dd3 7f4e 26261 2615c 27b48
   7d97 25e82 426a 26b75 20916 67d6 2004e 235cf 57c4 26412 263f8 24962 7fdd 7b27 2082c 25ae9 25d43
   7b0c 25e0e 99e6 8645 9a63 6a1c 2343f 39e2 249f7 265ad 9a1f 265a0 8480 27127 26cd1 44ea 8137 4402
   80c6 8109 8142 267b4 98c3 26a42 8262 8265 26a51 8453 26da7 8610 2721b 5a86 417f 21840 5b2b 218a1
   5ae4 218d8 86a0 2f9bc 23d8f 882d 27422 5a02 886e 4f45 8887 88bf 88e6 8965 894d 25683 8954 27785
   27784 28bf5 28bd9 28b9c 289f9 3ead 84a3 46f5 46cf 37f2 8a3d 8a1c 29448 5f4d 922b 24284 65d4 7129
   70c4 21845 9d6d 8c9f 8ce9 27ddc 599a 77c3 59f0 436e 36d4 8e2a 8ea7 24c09 8f30 8f4a 42f4 6c58
   6fbb 22321 489b 6f79 6e8b 217da 9be9 36b5 2492f 90bb 9097 5571 4906 91bb 9404 28a4b 4062 28afc
   9427 28c1d 28c3b 84e5 8a2b 9599 95a7 9597 9596 28d34 7445 3ec2 248ff 24a42 243ea 3ee7 23225 968f
   28ee7 28e66 28e65 3ecc 249ed 24a78 23fee 7412 746b 3efc 9741 290b0 6847 4a1d 29093 257df 975d
   9368 28989 28c26 28b2f 263be 92ba 5b11 8b69 493c 73f9 2421b 979b 9771 9938 20f26 5dc1 28bc5
   24ab2 981f 294da 92f6 295d7 91e5 44c0 28b50 24a67 28b64 98dc 28a45 3f00 922a 4925 8414 993b 994d
   27b06 3dfd 999b 4b6f 99aa 9a5c 28b65 258c8 6a8f 9a21 5afe 9a2f 298f1 4b90 29948 99bc 4bbd 4b97
   937d 5872 21302 5822 249b8 214e8 7844 2271f 23db8 68c5 3d7d 9458 3927 6150 22781 2296b 6107 9c4f
   9c53 9c7b 9c35 9c10 9b7f 9bcf 29e2d 9b9f 2a1f5 2a0fe 9d21 4cae 24104 9e18 4cb0 9d0c 2a1b4 2a0ed
   2a0f3 2992f 9da5 84bd 26e12 26fdf 26b82 85fc 4533 26da4 26e84 26df0 8420 85ee 26e00 237d7 26064
   79e2 2359c 23640 492d 249de 3d62 93db 92be 9348 202bf 78b9 9277 944d 4fe4 3440 9064 2555d 783d
   7854 78b6 784b 21757 231c9 24941 369a 4f72 6fda 6fd9 701e 701e 5414 241b5 57bb 58f3 578a 9d16
   57d7 7134 34af 241ac 71eb 26c40 24f97 5b28 217b5 28a49 610c 5ace 5a0b 42bc 24488 372c 4b7b 289fc
   93bb 93b8 218d6 20f1d 8472 26cc0 21413 242fa 22c26 243c1 5994 23db7 26741 7da8 2615b 260a4 249b9
   2498b 289fa 92e5 73e2 3ee9 74b4 28b63 2189f 3ee1 24ab3 6ad8 73f3 73fb 3ed6 24a3e 24a94 217d9
   24a66 203a7 21424 249e5 7448 24916 70a5 24976 9284 73e6 935f 204fe 9331 28ace 28a16 9386 28be7
   255d5 4935 28a82 716b 24943 20cff 56a4 2061a 20beb 20cb8 5502 79c4 217fa 7dfe 216c2 24a50 21852
   452e 9401 370a 28ac0 249ad 59b0 218bf 21883 27484 5aa1 36e2 23d5b 36b0 925f 5a79 28a81 21862
   9374 3ccd 20ab4 4a96 398a 50f4 3d69 3d4c 2139c 7175 42fb 28218 6e0f 290e4 44eb 6d57 27e4f 7067
   6caf 3cd6 23fed 23e2d 6e02 6f0c 3d6f 203f5 7551 36bc 34c8 4680 3eda 4871 59c4 926e 493e 8f41
   28c1c 26bc0 5812 57c8 36d6 21452 70fe 24362 24a71 22fe3 212b0 223bd 68b9 6967 21398 234e5 27bf4
   236df 28a83 237d6 233fa 24c9f 6a1a 236ad 26cb7 843e 44df 44ce 26d26 26d51 26c82 26fde 6f17 27109
   833d 2173a 83ed 26c80 27053 217db 5989 5a82 217b3 5a61 5a71 21905 241fc 372d 59ef 2173c 36c7
   718e 9390 669a 242a5 5a6e 5a2b 24293 6a2b 23ef9 27736 2445b 242ca 711d 24259 289e1 4fb0 26d28
   5cc2 244ce 27e4d 243bd 6a0c 24256 21304 70a6 7133 243e9 3da5 6cdf 2f825 24a4f 7e65 59eb 5d2f
   3df3 5f5c 24a5d 217df 7da4 8426 5485 23afa 23300 20214 577e 208d5 20619 3fe5 21f9e 2a2b6 7003
   2915b 5d70 738f 7cd3 28a59 29420 4fc8 7fe7 72cd 7310 27af4 7338+2 256f6 7341 7348 3ea9 27b18
   906c 71f5 248f2 73e1 81f6 3eca 770c 3ed1 6ca2 56fd 7419 741e+2 3ee2 3ef0 3ef4 3efa 74d3 3f0e
   3f53 7542 756d 7572 758d 3f7c 75c8 75dc 3fc0 764d 3fd7 7674 3fdc 767a 24f5c 7188 5623 8980 5869
   401d 7743 4039 6761 4045 35db 7798 406a 406f 5c5e 77be 77cb 58f2 7818 70b9 781c 40a8 7839 7847
   7851 7866 8448 25535 7933 6803 7932 4103 4109 7991 7999 8fbb 7a06 8fbc 4167 7a91 41b2 7abc 8279
   41c4 7acf 7adb 41cf 4e21 7b62 7b6c 7b7b 7c12 7c1b 4260 427a 7c7b 7c9c 428c 7cb8 4294 7ced 8f93
   70c0 20ccf 7dcf 7dd4 7dd0 7dfd 7fae 7fb4 729f 4397 8020 8025 7b39 802e 8031 8054 3dcc 57b4 70a0
   80b7 80e9 43ed 810c 732a 810e 8112 7560 8114 4401 3b39 8156 8159+2 4413 583a 817c 8184 4425 8193
   442d 81a5 57ef 81c1 81e4 8254 448f 82a6 8276 82ca 82d8 82ff 44b0 8357 9669 698a 8405 70f5 8464
   60e3 8488 4504 84be 84e1 84f8 8510 8538 8552 453b 856f+2 85e0 4577 8672 8692 86b2 86ef 9645 878b
   4606 4617 88ae 88ff 8924 8947 8991 27967 8a29 8a38 8a94 8ab4 8c51 8cd4 8cf2 8d1c 4798 585f 8dc3
   47ed 4eee 8e3a 55d8 5754 8e71 55f5 8eb0 4837 8ece 8ee2 8ee4 8eed 8ef2 8fb7 8fc1 8fca 8fcc 9033
   99c4 48ad 98e0 9213 491e 9228 9258 926b 92b1 92ae 92bf 92e3 92eb 92f3+2 92fd 9343 9384 93ad 4945
   4951 9ebf 9417 5301 941d 942d 943e 496a 9454 9479 952d 95a2 49a7 95f4 9633 49e5 67a0 4a24 9740
   4a35 97b2 97c2 5654 4ae4 60e8 98b9 4b19 98f1 5844 990e 9919 51b4 991c 9937 9942 995d 9962 4b70
   99c5 4b9d 9a3c 9b0f 7a83 9b69 9b81 9bdd 9bf1 9bf4 4c6d 9c20 376f 21bc2 9d49 9c3a 9efe 5650 9d93
   9dbd 9dc0 9dfc 94f6 8fb6 9e7b 9eac 9eb1 9ebd 9ec6 94dc 9ee2 9ef1 9ef8 7ac8 9f44 20094 202b7
   203a0 691a 94c3 59ac 204d7 5840 94c1 37b9 205d5 20615 20676 216ba 5757 7173 20ac2 20acd 20bbf
   546a 2f83b 20bcb 549e 20bfb 20c3b 20c53 20c65 20c7c 60e7 20c8d 567a 20cb5 20cdd 20ced 20d6f
   20db2 20dc8 6955 9c2f 87a5 20e04 20e0e 20ed7 20f90 20f2d 20e73 5c20 20fbc 5e0b 2105c 2104f 21076
   671e 2107b 21088 21096 3647 210bf 210d3 2112f 2113b 5364 84ad 212e3 21375 21336 8b81 21577 21619
   217c3 217c7 4e78 70bb 2182d 2196a 21a2d 21a45 21c2a 21c70 21cac 21ec8 62c3 21ed5 21f15 7198 6855
   22045 69e9 36c8 2227c 223d7 223fa 2272a 22871 2294f 82fd 22967 22993 22ad5 89a5 22ae8 8fa0 22b0e
   97b8 22b3f 9847 9abd 22c4c -1 22c88 22cb7 25be8 22d08 22d12 22db7 22d95 22e42 22f74 22fcc 23033
   23066 2331f 233de 5fb1 6648 66bf 27a79 23567 235f3 7201 249ba 77d7 2361a 23716 7e87 20346 58b5
   670e 6918 23aa7 27657 25fe2 23e11 23eb9 275fe 2209a 48d0 4ab8 24119 28a9a 242ee 2430d 2403b
   24334 24396 24a45 205ca 51d2 20611 599f 21ea8 3bbe 23cff 24404 244d6 5788 24674 399b 2472f 285e8
   299c9 3762 221c3 8b5e 28b4e 99d6 24812 248fb 24a15 7209 24ac0 20c78 5965 24ea5 24f86 20779 8eda
   2502c 528f 573f 7171 25299 25419 23f4a 24aa7 55bc 25446 2546e 26b52 91d4 3473 2553f 27632 2555e
   4718 25562 25566 257c7 2493f 2585d 5066 34fb 233cc 60de 25903 477c 28948 25aae 25b89 25c06 21d90
   57a1 7151 6fb6 26102 27c12 9056 261b2 24f9a 8b62 26402 2644a 5d5b 26bf7 8f36 26484 2191c 8aea
   249f6 26488 23fef 26512 4bc0 265bf 266b5 2271b 9465 257e1 6195 5a27 2f8cd 4fbb 56b9 24521 266fc
   4e6a 24934 9656 6d8f 26cbd 3618 8977 26799 2686e 26411 2685e 71df 268c7 7b42 290c0 20a11 26926
   9104 26939 7a45 9df0 269fa 9a26 26a2d 365f 26469 20021 7983 26a34 26b5b 5d2c 23519 83cf 26b9d
   46d0 26ca4 753b 8865 26dae 58b6 371c 2258d 2704b 271cd 3c54 27280 27285 9281 2217a 2728b 9330
   272e6 249d0 6c39 949f 27450 20ef8 8827 88f5 22926 28473 217b1 6eb8 24a2a 21820 39a4 36b9 5c10
   79e3 453f 66b6 29cad 298a4 8943 277cc 27858 56d6 40df 2160a 39a1 2372f 280e8 213c5 71ad 8366
   279dd 291a8 5a67 4cb7 270af 289ab 279fd 27a0a 27b0b 27d66 2417a 7b43 797e 28009 6fb5 2a2df 6a03
   28318 53a2 26e07 93bf 6836 975d 2816f 28023 269b5 213ed 2322f 28048 5d85 28c30 28083 5715 9823
   28949 5dab 24988 65be 69d5 53d2 24aa5 23f81 3c11 6736 28090 280f4 2812e 21fa1 2814f 28189 281af
   2821a 28306 2832f 2838a 35ca 28468 286aa 48fa 63e6 28956 7808 9255 289b8 43f2 289e7 43df 289e8
   28b46 28bd4 59f8 28c09 8f0b 28fc5 290ec 7b51 29110 2913c 3df7 2915e 24aca 8fd0 728f 568b 294e7
   295e9 295b0 295b8 29732 298d1 29949 2996a 299c3 29a28 29b0e 29d5a 29d9b 7e9f 29ef8 29f23 4ca4
   9547 2a293 71a2 2a2ff 4d91 9012 2a5cb 4d9c 20c9c 8fbe 55c1 8fba 224b0 8fb9 24a93 4509 7e7f 6f56
   6ab1 4eea 34e4 28b2c 2789d 373a 8e80 217f5 28024 28b6c 28b99 27a3e 266af 3deb 27655 23cb7 25635
   25956 4e9a 25e81 26258 56bf 20e6d 8e0e 5b6d 23e88 24c9e 63de 62d0 217f6 2187b 6530 562d 25c4a
   541a 25311 3dc6 29d98 4c7d 5622 561e 7f49 25ed8 5975 23d40 8770 4e1c 20fea 20d49 236ba 8117 9d5e
   8d18 763b 9c45 764e 77b9 9345 5432 8148 82f7 5625 8132 8418 80bd 55ea 7962 5643 5416 20e9d 35ce
   5605 55f1 66f1 282e2 362d 7534 55f0 55ba 5497 5572 20c41 20c96 5ed0 25148 20e76 22c62 20ea2 9eab
   7d5a 55de 21075 629d 976d 5494 8ccd 71f6 9176 63fc 63b9 63fe 5569 22b43 9c72 22eb3 519a 34df
   20da7 51a7 544d 551e 5513 7666 8e2d 2688a 75b1 80b6 8804 8786 88c7 81b6 841c 210c1 44ec 7304
   24706 5b90 830b 26893 567b 226f4 27d2f 241a3 27d73 26ed0 272b6 9170 211d9 9208 23cfc 2a6a9 20eac
   20ef9 7266 21ca2 474e 24fc2 27ff9 20feb 40fa 9c5d 651f 22da0 48f3 247e0 29d7c 20fec 20e0a 6062
   275a3 20fed -1 26048 21187 71a3 7e8e 9d50 4e1a 4e04 3577 5b0d 6cb2 5367 36ac 39dc 537d 36a5
   24618 589a 24b6e 822d 544b 57aa 25a95 20979 -1 3a52 22465 7374 29eac 4d09 9bed 23cfe 29f30 4c5b
   24fa9 2959e 29fde 845c 23db6 272b2 267b3 23720 632e 7d25 23ef7 23e2c 3a2a 9008 52cc 3e74 367a
   45e9 2048e 7640 5af0 20eb6 787a 27f2e 58a7 40bf 567c 9b8b 5d74 7654 2a434 9e85 4ce1 75f9 37fb
   6119 230da 243f2 -1 565d 212a9 57a7 24963 29e06 5234 270ae 35ad 6c4a 9d7c 7c56 9b39 57de 2176c
   5c53 64d3 294d0 26335 27164 86ad 20d28 26d22 24ae2 20d71 -1 51fe 21f0f 5d8e 9703 21dd1 9e81 904c
   7b1f 9b02 5cd1 7ba3 6268 6335 9aff 7bcf 9b2a 7c7e 9b2e 7c42 7c86 9c15 7bfc 9b09 9f17 9c1b 2493e
   9f5a 5573 5bc3 4ffd 9e98 4ff2 5260 3e06 52d1 5767 5056 59b7 5e12 97c8 9dab 8f5c 5469 97b4 9940
   97ba 532c 6130 692c 53da 9c0a 9d02 4c3b 9641 6980 50a6 7546 2176d 99da 5273 -1 9159 9681 915c -1
   9151 28e97 637f 26d23 6aca 5611 918e 757a 6285 203fc 734f 7c70 25c21 23cfd -1 24919 76d6 9b9d
   4e2a 20cd4 83be 8842 -1 5c4a 69c0 50ed 577a 521f 5df5 4ece 6c31 201f2 4f39 549c 54da 529a 8d82
   35fe 5f0c 35f3 -1 6b52 917c 9fa5 9b97 982e 98b4 9aba 9ea8 9e84 717a 7b14 -1 6bfa 8818 7f78 -1
   5620 2a64a 8e77 9f53 -1 8dd4 8e4f 9e1c 8e01 6282 2837d 8e28 8e75 7ad3 24a77 7a3e 78d8 6cea 8a67
   7607 28a5a 9f26 6cce 87d6 75c3 2a2b2 7853 2f840 8d0c 72e2 7371 8b2d 7302 74f1 8ceb 24abb 862f
   5fba 88a0 44b7 -1 2183b 26e05 -1 8a7e 2251b -1 60fd 7667 9ad7 9d44 936e 9b8f 87f5 -1 880f 8cf7
   732c 9721 9bb0 35d6 72b2 4c07 7c51 994a 26159 6159 4c04 9e96 617d -1 575f 616f 62a6 6239 62ce
   3a5c 61e2 53aa 233f5 6364 6802 35d2 5d57 28bc2 8fda 28e39 -1 50d9 21d46 7906 5332 9638 20f3b
   4065 -1 77fe -1 7cc2 25f1a 7cda 7a2d 8066 8063 7d4d 7505 74f2 8994 821a 670c 8062 27486 805b
   74f0 8103 7724 8989 267cc 7553 26ed1 87a9 87ce 81c8 878c 8a49 8cad 8b43 772b 74f8 84da 3635 69b2
   8da6 -1 89a9 7468 6db9 87c1 24011 74e7 3ddb 7176 60a4 619c 3cd1 7162 6077 -1 7f71 28b2d 7250
   60e9 4b7e 5220 3c18 23cc7 25ed7 27656 25531 21944 212fe 29903 26ddc 270ad 5cc1 261ad 28a0f 23677
   200ee 26846 24f0e 4562 5b1f 2634c 9f50 9ea6 2626b 3000 ff0c 3001+2 ff0e 2027 ff1b ff1a ff1f ff01
   fe30 2026 2025 fe50+3 b7 fe54+4 ff5c 2013 fe31 2014 fe33 2574 fe34 fe4f ff08+2 fe35+2 ff5b ff5d
   fe37+2 3014+2 fe39+2 3010+2 fe3b+2 300a+2 fe3d+2 3008+2 fe3f+2 300c+2 fe41+2 300e+2 fe43+2
   fe59+6 2018+2 201c+2 301d+2 2035 2032 ff03 ff06 ff0a 203b a7 3003 25cb 25cf 25b3 25b2 25ce 2606
   2605 25c7 25c6 25a1 25a0 25bd 25bc 32a3 2105 af ffe3 ff3f 2cd fe49+2 fe4d+2 fe4b+2 fe5f+3 ff0b
   ff0d d7 f7 b1 221a ff1c ff1e ff1d 2266+2 2260 221e 2252 2261 fe62+5 ff5e 2229+2 22a5 2220 221f
   22bf 33d2 33d1 222b 222e 2235 2234 2640 2642 2295 2299 2191 2193 2190 2192 2196+2 2199 2198 2225
   2223 ff0f ff3c 2215 fe68 ff04 ffe5 3012 ffe0+2 ff05 ff20 2103 2109 fe69+3 33d5 339c+3 33ce 33a1
   338e+2 33c4 b0 5159 515b 515e 515d 5161 5163 55e7 74e9 7cce 2581+8 258f 258e 258d 258c 258b 258a
   2589 253c 2534 252c 2524 251c 2594 2500 2502 2595 250c 2510 2514 2518 256d+2 2570 256f 2550 255e
   256a 2561 25e2+2 25e5 25e4 2571+3 ff10+a 2160+a 3021+9 5341 5344+2 ff21+1a ff41+1a 391+11 3a3+7
   3b1+11 3c3+7 3105+25 2d9 2c9+2 2c7 2cb 2400+20 2421 20ac -1d 4e00 4e59 4e01 4e03 4e43 4e5d 4e86
   4e8c 4eba 513f 5165 516b 51e0 5200+2 529b 5315 5341 535c 53c8 4e09 4e0b 4e08 4e0a 4e2b 4e38 51e1
   4e45 4e48 4e5f 4e5e 4e8e 4ea1 5140 5203 52fa 5343 53c9 53e3 571f 58eb 5915 5927 5973 5b50+2 5b53
   5bf8 5c0f 5c22 5c38 5c71 5ddd 5de5 5df1+3 5dfe 5e72 5efe 5f0b 5f13 624d 4e11 4e10 4e0d 4e2d 4e30
   4e39 4e4b 5c39 4e88 4e91 4e95 4e92 4e94 4ea2 4ec1 4ec0 4ec3 4ec6+2 4ecd 4eca+2 4ec4 5143 5141
   5167 516d+2 516c 5197 51f6 5206+3 52fb 52fe+2 5316 5339 5348 5347 5345 535e 5384 53cb 53ca 53cd
   58ec 5929 592b 592a 592d 5b54 5c11 5c24 5c3a 5c6f 5df4 5e7b 5eff 5f14+2 5fc3 6208 6236 624b 624e
   652f 6587 6597 65a4 65b9 65e5 66f0 6708 6728 6b20 6b62 6b79 6bcb 6bd4 6bdb 6c0f 6c34 706b 722a
   7236 723b 7247 7259 725b 72ac 738b 4e19 4e16 4e15 4e14 4e18 4e3b 4e4d 4e4f 4e4e 4ee5 4ed8 4ed4+4
   4ee3+2 4ed9 4ede 5145 5144 5189+2 51ac 51f9+2 51f8 520a 52a0 529f 5305+2 5317 531d 4edf 534a
   5349 5361 5360 536f 536e 53bb 53ef 53e4 53f3 53ec 53ee 53e9 53e8 53fc 53f8 53f5 53eb 53e6 53ea
   53f2 53f1 53f0 53e5 53ed 53fb 56db 56da 5916 592e 5931 5974 5976 5b55 5b83 5c3c 5de8 5de7 5de6
   5e02+2 5e73 5e7c 5f01 5f18 5f17 5fc5 620a 6253+2 6252 6251 65a5 65e6 672e 672c 672a+2 672d 6b63
   6bcd 6c11 6c10 6c38 6c41 6c40 6c3e 72af 7384 7389 74dc 74e6 7518 751f 7528+2 7530+4 758b 767d
   76ae 76bf 76ee 77db 77e2 77f3 793a 79be 7a74 7acb 4e1e+2 4e52+2 4e69 4e99 4ea4 4ea6 4ea5 4eff
   4f09 4f19 4f0a 4f15 4f0d 4f10+2 4f0f 4ef2 4ef6 4efb 4ef0 4ef3 4efd 4f01 4f0b 5149 5147 5146 5148
   5168 5171 518d 51b0 5217 5211+2 520e 5216 52a3 5308 5321 5320 5370+2 5409 540f 540c 540a 5410
   5401 540b 5404 5411 540d 5408 5403 540e 5406 5412 56e0 56de 56dd 5733 5730 5728 572d 572c 572f
   5729 5919+2 5937+2 5984 5978 5983 597d 5979 5982 5981 5b57+2 5b87+2 5b85 5b89 5bfa 5c16 5c79
   5dde 5e06 5e76 5e74 5f0f 5f1b 5fd9 5fd6 620e 620c+2 6210 6263 625b 6258 6536 65e9 65e8 65ec+2
   66f2+2 6709 673d 6734 6731 6735 6b21 6b64 6b7b 6c16 6c5d 6c57 6c59 6c5f+2 6c50 6c55 6c61 6c5b
   6c4d+2 7070 725f 725d 767e 7af9 7c73 7cf8 7f36 7f8a 7fbd 8001 8003 800c 8012 8033 807f 8089
   808b+2 81e3 81ea 81f3 81fc 820c 821b 821f 826e 8272 827e 866b 8840 884c 8863 897f 9621 4e32 4ea8
   4f4d 4f4f 4f47 4f57 4f5e 4f34 4f5b 4f55 4f30 4f50+2 4f3d 4f3a 4f38 4f43 4f54 4f3c 4f46 4f63 4f5c
   4f60 4f2f 4f4e 4f36 4f59 4f5d 4f48 4f5a 514c 514b 514d 5175 51b6+2 5225 5224 5229+2 5228 52ab
   52a9+2 52ac 5323 5373 5375 541d 542d 541e 543e 5426 544e 5427 5446 5443 5433 5448 5442 541b 5429
   544a 5439 543b 5438 542e 5435+2 5420 543c 5440 5431 542b 541f 542c 56ea 56f0 56e4 56eb 574a 5751
   5740 574d 5747 574e 573e 5750 574f 573b 58ef 593e 599d 5992 59a8 599e 59a3 5999 5996 598d 59a4
   5993 598a 59a5 5b5d 5b5c 5b5a+2 5b8c 5b8b 5b8f 5c2c 5c40+2 5c3f 5c3e 5c90+2 5c94 5c8c 5deb 5e0c
   5e8f 5e87 5e8a 5ef7 5f04 5f1f 5f64 5f62 5f77 5f79 5fd8 5fcc 5fd7 5fcd 5ff1 5feb 5ff8 5fea 6212
   6211 6284 6297 6296 6280 6276 6289 626d 628a 627c 627e 6279 6273 6292 626f 6298 626e 6295 6293
   6291 6286 6539 653b 6538 65f1 66f4 675f 674e+4 675c 6756 675e 6749 6746 6760 6753 6757 6b65 6bcf
   6c42 6c5e 6c99 6c81 6c88+2 6c85 6c9b 6c6a 6c7a 6c90 6c70 6c8c 6c68 6c96 6c92 6c7d 6c83 6c72 6c7e
   6c74 6c86 6c76 6c8d 6c94 6c98 6c82 7076 707c+2 7078 7262 7261 7260 72c4 72c2 7396 752c 752b
   7537+2 7682 76ef 77e3 79c1 79c0 79bf 7a76 7cfb 7f55 8096 8093 809d 8098 809b 809a 80b2 826f 8292
   828b 828d 898b 89d2 8a00 8c37 8c46 8c55 8c9d 8d64 8d70 8db3 8eab 8eca 8f9b 8fb0 8fc2 8fc6 8fc5
   8fc4 5de1 9091 90a2 90aa 90a6 90a3 9149 91c6 91cc 9632 962e 9631 962a 962c 4e26 4e56 4e73 4e8b
   4e9b 4e9e 4eab+2 4f6f 4f9d 4f8d 4f73 4f7f 4f6c 4f9b 4f8b 4f86 4f83 4f70 4f75 4f88 4f69 4f7b 4f96
   4f7e 4f8f 4f91 4f7a 5154 5152 5155 5169 5177 5176 5178 51bd 51fd 523b 5238 5237 523a 5230 522e
   5236 5241 52be 52bb 5352 5354 5353 5351 5366 5377+3 53d6 53d4 53d7 5473 5475 5496 5478 5495 5480
   547b 5477 5484 5492 5486 547c 5490 5471 5476 548c 549a 5462 5468 548b 547d 548e 56fa 5783 5777
   576a 5769 5761 5766 5764 577c 591c 5949 5947+2 5944 5954 59be 59bb 59d4 59b9 59ae 59d1 59c6 59d0
   59cd 59cb 59d3 59ca 59af 59b3 59d2 59c5 5b5f 5b64 5b63 5b97 5b9a 5b98 5b9c 5b99 5b9b 5c1a 5c48
   5c45+2 5cb7 5ca1 5cb8 5ca9 5cab 5cb1 5cb3 5e18 5e1a 5e16 5e15 5e1b 5e11 5e78 5e9a 5e97 5e9c
   5e95+2 5ef6 5f26+2 5f29 5f80+2 5f7f 5f7c 5fdd 5fe0 5ffd 5ff5 5fff 600f 6014 602f 6035 6016 602a
   6015 6021 6027 6029 602b 601b 6216 6215 623f 623e 6240 627f 62c9 62cc 62c4 62bf 62c2 62b9 62d2
   62db 62ab 62d3+2 62cb 62c8 62a8 62bd 62bc 62d0 62d9 62c7 62cd 62b5 62da 62b1 62d8 62d6+2 62c6
   62ac 62ce 653e 65a7 65bc 65fa 6614 6613 660c 6606 6602 660e 6600 660f 6615 660a 6607 670d 670b
   676d 678b 6795 6771 679c 6773 6777 6787 679d 6797 676f+2 677f 6789 677e 6790 6775 679a 6793 677c
   676a 6772 6b23 6b66+2 6b7f 6c13 6c1b 6ce3 6ce8 6cf3 6cb1 6ccc 6ce5 6cb3 6cbd+2 6cbc 6ce2 6cab
   6cd5 6cd3 6cb8 6cc4 6cb9 6cc1 6cae 6cd7 6cc5 6cf1 6cbf 6cbb 6ce1 6cdb 6cca 6cac 6cef 6cdc 6cd6
   6ce0 7095 708e 7092 708a 7099 722c+2 7238 7248 7267 7269 72c0 72ce 72d9 72d7 72d0 73a9 73a8 739f
   73ab 73a5 753d 759d 7599+2 7684 76c2 76f2 76f4 77e5 77fd 793e 7940+2 79c9 79c8 7a7a 7a79 7afa
   7cfe 7f54 7f8c 7f8b 8005 80ba 80a5 80a2 80b1 80a1 80ab 80a9 80b4 80aa 80af 81e5 81fe 820d 82b3
   829d 8299 82ad 82bd 829f 82b9 82b1 82ac 82a5 82af 82b8 82a3 82b0 82be 82b7 864e 8671 521d 8868
   8ecb 8fce 8fd4 8fd1 90b5 90b8 90b1 90b6 91c7 91d1 9577 9580 961c 9640 963f 963b 9644 9642 96b9
   96e8 9752 975e 4e9f 4ead+2 4fe1 4fb5 4faf 4fbf 4fe0 4fd1 4fcf 4fdd 4fc3 4fb6 4fd8 4fdf 4fca 4fd7
   4fae 4fd0 4fc4 4fc2 4fda 4fce 4fde 4fb7 5157 5192 5191 51a0 524e 5243 524a 524d 524c 524b 5247
   52c7 52c9 52c3 52c1 530d 5357 537b 539a 53db 54ac 54c0 54a8 54ce 54c9 54b8 54a6 54b3 54c7 54c2
   54bd 54aa 54c1 54c4 54c8 54af 54ab 54b1 54bb 54a9 54a7 54bf 56ff 5782 578b 57a0 57a3 57a2 57ce
   57ae 5793 5955 5951 594f 594e 5950 59dc 59d8 59ff 59e3 59e8 5a03 59e5 59ea 59da 59e6 5a01 59fb
   5b69 5ba3 5ba6 5ba4 5ba2 5ba5 5c01 5c4e+2 5c4d 5c4b 5cd9 5cd2 5df7 5e1d 5e25 5e1f 5e7d 5ea0 5ea6
   5efa 5f08 5f2d 5f65 5f88 5f85 5f8a+2 5f87 5f8c 5f89 6012 601d 6020 6025 600e 6028 604d 6070 6068
   6062 6046 6043 606c 606b 606a 6064 6241 62dc 6316 6309 62fc 62ed 6301 62ee 62fd 6307 62f1 62f7
   62ef 62ec 62fe 62f4 6311 6302 653f 6545 65ab 65bd 65e2 6625 662d 6620 6627 662f 661f 6628 6631
   6624 66f7 67ff 67d3 67f1 67d4 67d0 67ec 67b6 67af 67f5 67e9 67ef 67c4 67d1 67b4 67da 67e5 67b8
   67cf 67de 67f3 67b0 67d9 67e2 67dd 67d2 6b6a 6b83 6b86 6bb5 6bd2 6bd7 6c1f 6cc9 6d0b 6d32 6d2a
   6d41 6d25 6d0c 6d31 6d1e 6d17 6d3b 6d3d+2 6d36 6d1b 6cf5 6d39 6d27 6d38 6d29 6d2e 6d35 6d0e 6d2b
   70ab 70ba 70b3 70ac 70af 70ad 70b8 70ae 70a4 7230 7272 726f 7274 72e9 72e0+2 73b7 73ca 73bb 73b2
   73cd 73c0 73b3 751a 752d 754f 754c 754e 754b 75ab 75a4+2 75a2+2 7678 7686+3 76c8 76c6 76c3 76c5
   7701 76f9 76f8 7709 770b 76fe 76fc 7707 77dc 7802 7814 780c+2 7946 7949 7948 7947 79b9+2 79d1+2
   79cb 7a7f 7a81 7aff 7afd 7c7d 7d02 7d05 7d00 7d09 7d07 7d04 7d06 7f38 7f8e 7fbf 8004 8010 800d
   8011 8036 80d6 80e5 80da 80c3+2 80cc 80e1 80db 80ce 80de 80e4 80dd 81f4 8222 82e7 8303 8305 82e3
   82db 82e6 8304 82e5 8302 8309 82d2 82d7 82f1 8301 82dc 82d4 82d1 82de 82d3 82df 82ef 8306 8650
   8679 867b 867a 884d 886b 8981 89d4 8a08 8a02+2 8c9e 8ca0 8d74 8d73 8db4 8ecd 8ecc 8ff0 8fe6 8fe2
   8fea 8fe5 8fed 8feb 8fe4 8fe8 90ca 90ce 90c1 90c3 914b 914a 91cd 9582 9650 964b+3 9762 9769 97cb
   97ed 97f3 9801 98a8 98db 98df 9996 9999 4e58 4eb3 500c+2 5023 4fef 5026 5025 4ff8 5029 5016 5006
   503c 501f 501a 5012 5011 4ffa 5000 5014 5028 4ff1 5021 500b 5019 5018 4ff3 4fee 502d 502a 4ffe
   502b 5009 517c 51a4+2 51a2 51cd 51cc 51c6 51cb 5256 525c 5254 525b 525d 532a 537f 539f 539d 53df
   54e8 5510 5501 5537 54fc 54e5 54f2 5506 54fa 5514 54e9 54ed 54e1 5509 54ee 54ea 54e6 5527 5507
   54fd 550f 5703+2 57c2 57d4 57cb 57c3 5809 590f 5957+2 595a 5a11 5a18 5a1c 5a1f 5a1b 5a13 59ec
   5a20 5a23 5a29 5a25 5a0c 5a09 5b6b 5c58 5bb0 5bb3 5bb6 5bb4 5bae 5bb5 5bb9 5bb8 5c04 5c51 5c55
   5c50 5ced 5cfd 5cfb 5cea 5ce8 5cf0 5cf6 5d01 5cf4 5dee 5e2d 5e2b 5eab 5ead 5ea7 5f31 5f92 5f91
   5f90 6059 6063 6065 6050 6055 606d 6069 606f 6084 609f 609a 608d 6094 608c 6085 6096 6247 62f3
   6308 62ff 634e 633e 632f 6355 6342 6346 634f 6349 633a 6350 633d 632a+2 6328 634d 634c 6548+2
   6599 65c1 65c5 6642 6649 664f 6643 6652 664c 6645 6641 66f8 6714+2 6717 6821 6838 6848 6846 6853
   6839 6842 6854 6829 68b3 6817 684c 6851 683d 67f4 6850 6840 683c 6843 682a 6845 6813 6818 6841
   6b8a 6b89 6bb7 6c23 6c27+2 6c26 6c24 6cf0 6d6a 6d95 6d88 6d87 6d66 6d78 6d77 6d59 6d93 6d6c 6d89
   6d6e 6d5a 6d74 6d69 6d8c 6d8a 6d79 6d85 6d65 6d94 70ca 70d8 70e4 70d9 70c8 70cf 7239 7279 72fc
   72f9 72fd 72f8 72f7 7386 73ed 7409 73ee 73e0 73ea 73de 7554 755d 755c 755a 7559 75be 75c5 75c7
   75b2+2 75bd 75bc 75b9 75c2 75b8 768b 76b0 76ca 76cd+2 7729 771f+2 7728 77e9 7830 7827 7838 781d
   7834 7837 7825 782d 7820 781f 7832 7955 7950 7960 795f 7956 795e 795d 7957 795a 79e4 79e3 79e7
   79df 79e6 79e9 79d8 7a84 7a88 7ad9 7b06 7b11 7c89 7d21 7d17 7d0b 7d0a 7d20 7d22 7d14 7d10 7d15
   7d1a 7d1c 7d0d 7d19 7d1b 7f3a 7f5f 7f94 7fc5 7fc1 8006 8018 8015 8019 8017 803d 803f 80f1 8102
   80f0 8105 80ed 80f4 8106 80f8 80f3 8108 80fd 810a 80fc 80ef 81ed 81ec 8200 8210 822a+2 8228 822c
   82bb 832b 8352 8354 834a 8338 8350 8349 8335 8334 834f 8332 8339 8336 8317 8340 8331 8328 8343
   8654 868a 86aa 8693 86a4 86a9 868c 86a3 869c 8870 8877 8881+2 887d 8879 8a18 8a10 8a0e 8a0c 8a15
   8a0a 8a17 8a13 8a16 8a0f 8a11 8c48 8c7a 8c79 8ca1+2 8d77 8eac 8ed2 8ed4 8ecf 8fb1 9001 9006 8ff7
   9000 8ffa 8ff4 9003 8ffd 9005 8ff8 9095 90e1 90dd 90e2 9152 914d 914c 91d8 91dd 91d7 91dc 91d9
   9583 9662+2 9661 965b 965d 9664 9658 965e 96bb 98e2 99ac 9aa8 9ad8 9b25 9b32 9b3c 4e7e 507a 507d
   505c 5047 5043 504c 505a 5049 5065 5076 504e 5055 5075 5074 5077 504f 500f 506f 506d 515c 5195
   51f0 526a 526f 52d2 52d9 52d8 52d5 5310 530f 5319 533f+2 533e 53c3 66fc 5546 556a 5566 5544 555e
   5561 5543 554a 5531 5556 554f 5555 552f 5564 5538 552e 555c 552c 5563 5533 5541 5557 5708 570b
   5709 57df 5805 580a 5806 57e0 57e4 57fa 5802 5835 57f7 57f9 5920 5962 5a36 5a41 5a49 5a66 5a6a
   5a40 5a3c 5a62 5a5a 5a46 5a4a 5b70 5bc7 5bc5 5bc4 5bc2 5bbf 5bc6 5c09 5c08 5c07 5c60 5c5c+2 5d07
   5d06 5d0e 5d1b 5d16 5d22 5d11 5d29 5d14 5d19 5d24 5d27 5d17 5de2 5e38 5e36 5e33 5e37 5eb7+2 5eb6
   5eb5 5ebe 5f35 5f37 5f57 5f6c 5f69 5f6b 5f97 5f99 5f9e 5f98 5fa1 5fa0 5f9c 607f 60a3 6089 60a0
   60a8 60cb 60b4 60e6 60bd 60c5 60bb 60b5 60dc 60bc 60d8 60d5 60c6 60df 60b8 60da 60c7 621a+2 6248
   63a0 63a7 6372 6396 63a2 63a5 6377 6367 6398 63aa 6371 63a9 6389 6383 639b 636b 63a8 6384 6388
   6399 63a1 63ac 6392 638f 6380 637b 6369 6368 637a 655d 6556 6551 6559 6557 555f 654f 6558 6555
   6554 659c 659b 65ac 65cf 65cb+2 65ce 665d 665a 6664 6668 6666 665e 66f9 52d7 671b 6881 68af 68a2
   6893 68b5 687f 6876 68b1 68a7 6897 68b0 6883 68c4 68ad 6886 6885 6894 689d 68a8 689f 68a1 6882
   6b32 6bba 6beb+2 6c2b 6d8e 6dbc 6df3 6dd9 6db2 6de1 6dcc 6de4 6dfb 6dfa 6e05 6dc7 6dcb 6daf 6dd1
   6dae 6dde 6df9 6db8 6df7 6df5 6dc5 6dd2 6e1a 6db5 6dda 6deb 6dd8 6dea 6df1 6dee 6de8 6dc6 6dc4
   6daa 6dec 6dbf 6de6 70f9 7109+2 70fd 70ef 723d 727d 7281 731c 731b 7316 7313 7319 7387 7405 740a
   7403 7406 73fe 740d 74e0 74f6+2 751c 7522 7565+2 7562 7570 758f 75d4+2 75b5 75ca 75cd 768e 76d4
   76d2 76db 7737 773e 773c 7736 7738 773a 786b 7843 784e 7965 7968 796d 79fb 7a92 7a95 7b20 7b28
   7b1b 7b2c 7b26 7b19 7b1e 7b2e 7c92 7c97 7c95 7d46 7d43 7d71 7d2e 7d39 7d3c 7d40 7d30 7d33 7d44
   7d2f 7d42 7d32 7d31 7f3d 7f9e 7f9a 7fcc 7fce 7fd2 801c 804a 8046 812f 8116 8123 812b 8129 8130
   8124 8202 8235 8237 8236 8239 838e 839e 8398 8378 83a2 8396 83bd 83ab 8392 838a 8393 8389 83a0
   8377 837b+2 8386 83a7 8655 5f6a 86c7 86c0 86b6 86c4 86b5 86c6 86cb 86b1 86af 86c9 8853 889e 8888
   88ab 8892 8896 888d 888b 8993 898f 8a2a 8a1d 8a23 8a25 8a31 8a2d 8a1f 8a1b 8a22 8c49 8c5a 8ca9
   8cac 8cab 8ca8 8caa 8ca7 8d67 8d66 8dbe 8dba 8edb 8edf 9019 900d 901a 9017 9023 901f 901d 9010
   9015 901e 9020 900f 9022 9016 901b 9014 90e8 90ed 90fd 9157 91ce 91f5 91e6 91e3 91e7 91ed 91e9
   9589 966a 9675 9673 9678 9670 9674 9676+2 966c 96c0 96ea 96e9 7ae0 7adf 9802+2 9b5a 9ce5 9e75
   9e7f 9ea5 9ebb 50a2 508d 5085 5099 5091 5080 5096 5098 509a 6700 51f1 5272 5274+2 5269 52de 52dd
   52db 535a 53a5 557b 5580 55a7 557c 558a 559d 5598 5582 559c 55aa 5594 5587 558b 5583 55b3 55ae
   559f 553e 55b2 559a 55bb 55ac 55b1 557e 5589 55ab 5599 570d 582f 582a 5834 5824 5830+2 5821 581d
   5820 58f9+2 5960 5a77 5a9a 5a7f 5a92 5a9b 5aa7 5b73 5b71 5bd2 5bcc 5bd3 5bd0 5c0a+2 5c31 5d4c
   5d50 5d34 5d47 5dfd 5e45 5e3d 5e40 5e43 5e7e 5eca 5ec1+2 5ec4 5f3c 5f6d 5fa9+2 5fa8 60d1 60e1
   60b2 60b6 60e0 611c 6123 60fa 6115 60f0 60fb 60f4 6168 60f1 610e 60f6 6109 6100 6112 621f 6249
   63a3 638c 63cf 63c0 63e9 63c9 63c6 63cd 63d2 63e3 63d0 63e1 63d6 63ed+2 6376 63f4 63ea 63db 6452
   63da 63f9 655e 6566 6562+2 6591 6590 65af 666e 6670 6674 6676 666f 6691 667a 667e 6677 66fe+2
   671f 671d 68fa 68d5 68e0 68d8 68d7 6905 68df 68f5 68ee 68e7 68f9 68d2 68f2 68e3 68cb 68cd 690d
   6912 690e 68c9 68da 696e 68fb 6b3e 6b3a 6b3d 6b98 6b96 6bbc 6bef 6c2e+2 6c2c 6e2f 6e38 6e54 6e21
   6e32 6e67 6e4a 6e20 6e25 6e23 6e1b 6e5b 6e58 6e24 6e56 6e6e 6e2d 6e26 6e6f 6e34 6e4d 6e3a 6e2c
   6e43 6e1d 6e3e 6ecb 6e89 6e19 6e4e 6e63 6e44 6e72 6e69 6e5f 7119+2 7126 7130 7121 7136 716e 711c
   724c 7284 7280 7336 7325 7334 7329 743a 742a 7433 7422 7425 7435+2 7434 742f 741b 7426 7428
   7525+2 756b 756a 75e2 75db 75e3 75d9 75d8 75de 75e0 767b+2 7696 7693 76b4 76dc 774f 77ed 785d
   786c 786f 7a0d 7a08 7a0b 7a05 7a00 7a98 7a97 7a96 7ae5 7ae3 7b49 7b56 7b46 7b50 7b52 7b54 7b4d
   7b4b 7b4f 7b51 7c9f 7ca5 7d5e 7d50 7d68 7d55 7d2b 7d6e 7d72 7d61 7d66 7d62 7d70 7d73 5584 7fd4+2
   800b 8052 8085 8155 8154 814b 8151 814e 8139 8146 813e 814c 8153 8174 8212 821c 83e9 8403 83f8
   840d 83e0 83c5 840b 83c1 83ef 83f1 83f4 8457 840a 83f0 840c 83cc 83fd 83f2 83ca 8438 840e 8404
   83dc 8407 83d4 83df 865b 86df 86d9 86ed 86d4 86db 86e4 86d0 86de 8857 88c1+2 88b1 8983 8996 8a3b
   8a60 8a55 8a5e 8a3c 8a41 8a54 8a5b 8a50 8a46 8a34 8a3a 8a36 8a56 8c61 8c82 8caf 8cbc 8cb3 8cbd
   8cc1 8cbb 8cc0 8cb4 8cb7 8cb6 8cbf 8cb8 8d8a 8d85 8d81 8dce 8ddd 8dcb 8dda 8dd1 8dcc 8ddb 8dc6
   8efb 8ef8 8efc 8f9c 902e 9035 9031 9038 9032 9036 9102 90f5 9109 90fe 9163 9165 91cf 9214+2 9223
   9209 921e 920d 9210 9207 9211 9594 958f 958b 9591 9593 9592 958e 968a 968e 968b 967d 9685+2 968d
   9672 9684 96c1 96c5 96c4 96c6+2 96ef 96f2 97cc 9805+2 9808 98e7 98ea 98ef 98e9 98f2 98ed 99ae
   99ad 9ec3 9ecd 9ed1 4e82 50ad 50b5 50b2+2 50c5 50be 50ac 50b7 50bb 50af 50c7 527f 5277 527d 52df
   52e6 52e4 52e2+2 532f 55df 55e8 55d3 55e6 55ce 55dc 55c7 55d1 55e3+2 55ef 55da 55e1 55c5+2 55e5
   55c9 5712+2 585e 5851 5858 5857 585a 5854 586b 584c 586d 584a 5862 5852 584b 5967 5ac1 5ac9 5acc
   5abe 5abd 5abc 5ab3 5ac2 5ab2 5d69 5d6f 5e4c 5e79 5ec9 5ec8 5f12 5f59 5fac 5fae 611a 610f 6148
   611f 60f3 611b 60f9 6101 6108 614e 614c 6144 614d 613e 6134 6127 610d 6106 6137 6221+2 6413 643e
   641e 642a 642d 643d 642c 640f 641c 6414 640d 6436 6416+2 6406 656c 659f 65b0 6697 6689 6687+2
   6696 6684 6698 668d 6703 6994 696d 695a 6977 6960 6954 6975 6930 6982 694a 6968 696b 695e 6953
   6979 6986 695d 6963 695b 6b47 6b72 6bc0 6bbf 6bd3 6bfd 6ea2 6eaf 6ed3 6eb6 6ec2 6e90 6e9d 6ec7
   6ec5 6ea5 6e98 6ebc 6eba 6eab 6ed1 6e96 6e9c 6ec4 6ed4 6eaa 6ea7 6eb4 714e 7159 7169 7164 7149
   7167 715c 716c 7166 714c 7165 715e 7146 7168 7156 723a 7252 7337 7345 733f 733e 746f 745a 7455
   745f 745e 7441 743f 7459 745b+2 7576 7578 7600 75f0 7601 75f2 75f1 75fa 75ff 75f4 75f3 76de+2
   775b 776b 7766 775e 7763 7779 776a 776c 775c 7765 7768 7762 77ee 788e 78b0 7897+2 788c 7889 787c
   7891 7893 787f 797a 797f 7981 842c 79bd 7a1c 7a1a 7a20 7a14 7a1f 7a1e 7a9f+2 7b77 7bc0 7b60 7b6e
   7b67 7cb1 7cb3 7cb5 7d93 7d79 7d91 7d81 7d8f 7d5b 7f6e 7f69+2 7f72 7fa9 7fa8 7fa4 8056 8058 8086
   8084 8171 8170 8178 8165 816e 8173 816b 8179+2 8166 8205 8247 8482 8477 843d 8431 8475 8466 846b
   8449 846c 845b 843c 8435 8461 8463 8469 846d 8446 865e 865c 865f 86f9 8713 8708 8707 8700 86fe
   86fb 8702+2 8706 870a 8859 88df 88d4 88d9 88dc 88d8 88dd 88e1 88ca 88d5 88d2 899c 89e3 8a6b
   8a72+2 8a66 8a69 8a70 8a87 8a7c 8a63 8aa0 8a71 8a85 8a6d 8a62 8a6e 8a6c 8a79 8a7b 8a3e 8a68 8c62
   8c8a 8c89 8cca 8cc7+2 8cc4 8cb2 8cc3 8cc2 8cc5 8de1 8ddf 8de8 8def 8df3 8dfa 8dea 8de4 8de6 8eb2
   8f03 8f09 8efe 8f0a 8f9f 8fb2 904b 904a 9053 9042 9054 903c 9055 9050 9047 904f 904e 904d 9051
   903e 9041 9112 9117 916c 916a 9169 91c9 9237 9257 9238 923d 9240 923e 925b 924b 9264 9251 9234
   9249 924d 9245 9239 923f 925a 9598 9698 9694+2 96cd 96cb 96c9+2 96f7 96fb 96f9 96f6 9756 9774
   9776 9810+2 9813 980a 9812 980c 98fc 98f4 98fd+2 99b3 99b1 99b4 9ae1 9ce9 9e82 9f0e 9f13 9f20
   50e7 50ee 50e5 50d6 50ed 50da 50d5 50cf 50d1 50f1 50ce 50e9 5162 51f3 5283 5282 5331 53ad 55fe
   5600 561b 5617 55fd 5614 5606 5609 560d+2 55f7 5616 561f 5608 5610 55f6 5718 5716 5875 587e 5883
   5893 588a 5879 5885 587d 58fd 5925 5922 5924 596a 5969 5ae1 5ae6 5ae9 5ad7 5ad6 5ad8 5ae3 5b75
   5bde 5be7 5be1 5be5+2 5be8 5be2 5be4 5bdf 5c0d 5c62 5d84 5d87 5e5b 5e63 5e55 5e57 5e54 5ed3 5ed6
   5f0a 5f46 5f70 5fb9 6147 613f 614b 6177 6162+2 615f 615a 6158 6175 622a 6487 6458 6454 64a4 6478
   645f 647a 6451 6467 6434 646d 647b 6572 65a1 65d7 65d6 66a2 66a8 669d 699c 69a8 6995 69c1 69ae
   69d3 69cb 699b 69b7 69bb 69ab 69b4 69d0 69cd 69ad 69cc 69a6 69c3 69a3 6b49 6b4c 6c33 6f33 6f14
   6efe 6f13 6ef4 6f29 6f3e 6f20 6f2c 6f0f 6f02 6f22 6eff 6eef 6f06 6f31 6f38 6f32 6f23 6f15 6f2b
   6f2f 6f88 6f2a 6eec 6f01 6ef2 6ecc 6ef7 7194 7199 717d 718a 7184 7192 723e 7292 7296 7344 7350
   7464 7463 746a 7470 746d 7504 7591 7627 760d 760b 7609 7613 76e1 76e3 7784 777d 777f 7761 78c1
   789f 78a7 78b3 78a9 78a3 798e+2 798d 7a2e 7a31 7aaa 7aa9 7aed 7aef 7ba1 7b95 7b8b 7b75 7b97 7b9d
   7b94 7b8f 7bb8 7b87 7b84 7cb9 7cbd+2 7dbb 7db0 7d9c 7dbd+2 7da0 7dca 7db4 7db2 7db1 7dba 7da2
   7dbf 7db5 7db8 7dad 7dd2 7dc7 7dac 7f70 7fe0+2 7fdf 805e 805a 8087 8150 8180 818f 8188 818a 817f
   8182 81e7 81fa 8207 8214 821e 824b 84c9 84bf 84c6 84c4 8499 849e 84b2 849c 84cb 84b8 84c0 84d3
   8490 84bc 84d1 84ca 873f 871c 873b 8722 8725 8734 8718 8755 8737 8729 88f3 8902 88f4 88f9 88f8
   88fd 88e8 891a 88ef 8aa6 8a8c 8a9e 8aa3 8a8d 8aa1 8a93 8aa4 8aaa 8aa5 8aa8 8a98 8a91 8a9a 8aa7
   8c6a 8c8d 8c8c 8cd3 8cd1+2 8d6b 8d99 8d95 8dfc 8f14 8f12 8f15 8f13 8fa3 9060 9058 905c 9063 9059
   905e 9062 905d 905b 9119 9118 911e 9175 9178 9177 9174 9278 9280 9285 9298 9296 927b 9293 929c
   92a8 927c 9291 95a1 95a8+2 95a3 95a5 95a4 9699 969c 969b 96cc 96d2 9700 977c 9785 97f6 9817+2
   98af 98b1 9903 9905 990c 9909 99c1 9aaf+2 9ae6 9b41+2 9cf4 9cf6 9cf3 9ebc 9f3b 9f4a 5104 5100
   50fb 50f5 50f9 5102 5108+2 5105 51dc 5287+3 528d 528a 52f0 53b2 562e 563b 5639 5632 563f 5634
   5629 5653 564e 5657 5674 5636 562f+2 5880 589f 589e 58b3 589c 58ae 58a9 58a6 596d 5b09 5afb 5b0b
   5af5 5b0c 5b08 5bee 5bec 5be9 5beb 5c64+2 5d9d 5d94 5e62 5e5f 5e61 5ee2 5eda 5edf 5edd 5ee3 5ee0
   5f48 5f71 5fb7 5fb5 6176 6167 616e 615d 6155 6182 617c 6170 616b 617e 61a7 6190 61ab 618e 61ac
   619a 61a4 6194 61ae 622e 6469 646f 6479 649e 64b2 6488 6490 64b0 64a5 6493 6495 64a9 6492 64ae
   64ad 64ab 649a 64ac 6499 64a2 64b3 6575 6577+2 66ae 66ab 66b4 66b1 6a23 6a1f 69e8 6a01 6a1e 6a19
   69fd 6a21 6a13 6a0a 69f3 6a02 6a05 69ed 6a11 6b50 6b4e 6ba4 6bc5+2 6f3f 6f7c 6f84 6f51 6f66 6f54
   6f86 6f6d 6f5b 6f78 6f6e 6f8e 6f7a 6f70 6f64 6f97 6f58 6ed5 6f6f 6f60 6f5f 719f 71ac 71b1 71a8
   7256 729b 734e 7357 7469 748b 7483 747e 7480 757f 7620 7629 761f 7624 7626 7621+2 769a 76ba 76e4
   778e 7787 778c 7791 778b 78cb 78c5 78ba 78ca 78be 78d5 78bc 78d0 7a3f 7a3c 7a40 7a3d 7a37 7a3b
   7aaf 7aae 7bad 7bb1 7bc4 7bb4 7bc6+2 7bc1 7ba0 7bcc 7cca 7de0 7df4 7def 7dfb 7dd8 7dec 7ddd 7de8
   7de3 7dda 7dde 7de9 7d9e 7dd9 7df2 7df9 7f75 7f77 7faf 7fe9 8026 819b+3 81a0 819a 8198 8517 853d
   851a 84ee 852c+2 8513 8511 8523 8521 8514 84ec 8525 84ff 8506 8782 8774 8776 8760 8766 8778 8768
   8759 8757 874c 8753 885b 885d 8910 8907 8912+2 8915 890a 8abc 8ad2 8ac7 8ac4 8a95 8acb 8af8 8ab2
   8ac9 8ac2 8abf 8ab0 8ad6 8acd 8ab6 8ab9 8adb 8c4c 8c4e 8c6c 8ce0 8cde 8ce6 8ce4 8cec+2 8ce2+2
   8cdc 8cea 8ce1 8d6d 8d9f 8da3 8e2b 8e10 8e1d 8e22 8e0f 8e29 8e1f 8e21 8e1e 8eba 8f1d 8f1b 8f1f
   8f29 8f26 8f2a 8f1c 8f1e 8f25 9069 906e 9068 906d 9077 9130 912d 9127 9131 9187 9189 918b 9183
   92c5 92bb 92b7 92ea 92ac 92e4 92c1 92b3 92bc 92d2 92c7 92f0 92b2 95ad 95b1 9704 9706+2 9709 9760
   978d 978b 978f 9821 982b 981c 98b3 990a 9913 9912 9918 99dd 99d0 99df 99db 99d1 99d5 99d2 99d9
   9ab7 9aee+2 9b27 9b45 9b44 9b77 9b6f 9d06 9d09 9d03 9ea9 9ebe 9ece 58a8 9f52 5112 5118 5114 5110
   5115 5180 51aa 51dd 5291 5293 52f3 5659 566b 5679 5669 5664 5678 566a 5668 5665 5671 566f 566c
   5662 5676 58c1 58be 58c7 58c5 596e 5b1d 5b34 5b78 5bf0 5c0e 5f4a 61b2 6191 61a9 618a 61cd 61b6
   61be 61ca 61c8 6230 64c5 64c1 64cb 64bb+2 64da 64c4 64c7 64c2 64cd 64bf 64d2 64d4 64be 6574 66c6
   66c9 66b9 66c4 66c7 66b8 6a3d 6a38 6a3a 6a59 6a6b 6a58 6a39 6a44 6a62 6a61 6a4b 6a47 6a35 6a5f
   6a48 6b59 6b77 6c05 6fc2 6fb1 6fa1 6fc3 6fa4 6fc1 6fa7 6fb3 6fc0 6fb9 6fb6 6fa6 6fa0 6fb4 71be
   71c9 71d0 71d2 71c8 71d5 71b9 71ce 71d9 71dc 71c3+2 7368 749c 74a3 7498 749f 749e 74e2 750c+2
   7634 7638 763a 76e7 76e5 77a0 779e+2 77a5 78e8 78da 78ec 78e7 79a6 7a4d+2 7a46 7a4c 7a4b 7aba
   7bd9 7c11 7bc9 7be4 7bdb 7be1 7be9 7be6 7cd5+2 7e0a 7e11 7e08 7e1b 7e23 7e1e 7e1d 7e09 7e10 7f79
   7fb2 7ff0+2 7fee 8028 81b3 81a9 81a8 81fb 8208 8258+2 854a 8559 8548 8568+2 8543 8549 856d 856a
   855e 8783 879f 879e 87a2 878d 8861 892a 8932 8925 892b 8921 89aa 89a6 8ae6 8afa 8aeb 8af1 8b00
   8adc 8ae7 8aee 8afe 8b01+2 8af7 8aed 8af3 8af6 8afc 8c6b 8c6d 8c93 8cf4 8e44 8e31 8e34 8e42 8e39
   8e35 8f3b 8f2f 8f38 8f33 8fa8 8fa6 9075 9074 9078 9072 907c 907a 9134 9192 9320 9336 92f8 9333
   932f 9322 92fc 932b 9304 931a 9310 9326 9321 9315 932e 9319 95bb 96a7+2 96aa 96d5 970e 9711 9716
   970d 9713 970f 975b+2 9766 9798 9830 9838 983b 9837 982d 9839 9824 9910 9928 991e 991b 9921 991a
   99ed 99e2 99f1 9ab8 9abc 9afb 9aed 9b28 9b91 9d15 9d23 9d26 9d28 9d12 9d1b 9ed8 9ed4 9f8d 9f9c
   512a 511f 5121 5132 52f5 568e 5680 5690 5685 5687 568f 58d5 58d3 58d1 58ce 5b30 5b2a 5b24 5b7a
   5c37 5c68 5dbc 5dba 5dbd 5db8 5e6b 5f4c 5fbd 61c9 61c2 61c7 61e6 61cb 6232 6234 64ce 64ca 64d8
   64e0 64f0 64e6 64ec 64f1 64e2 64ed 6582+2 66d9 66d6 6a80 6a94 6a84 6aa2 6a9c 6adb 6aa3 6a7e 6a97
   6a90 6aa0 6b5c 6bae 6bda 6c08 6fd8 6ff1 6fdf+2 6fdb 6fe4 6feb 6fef 6f80 6fec 6fe1 6fe9 6fd5 6fee
   6ff0 71e7 71df 71ee 71e6 71e5 71ed 71ec 71f4 71e0 7235 7246 7370 7372 74a9 74b0 74a6 74a8 7646
   7642 764c 76ea 77b3 77aa 77b0 77ac 77a7 77ad 77ef 78f7 78fa 78f4 78ef 7901 79a7 79aa 7a57 7abf
   7c07 7c0d 7bfe 7bf7 7c0c 7be0 7ce0 7cdc 7cde 7ce2 7cdf 7cd9 7cdd 7e2e 7e3e 7e46 7e37 7e32 7e43
   7e2b 7e3d 7e31 7e45 7e41 7e34 7e39 7e48 7e35 7e3f 7e2f 7f44 7ff3 7ffc 8071+2 8070 806f 8073 81c6
   81c3 81ba 81c2 81c0 81bf 81bd 81c9 81be 81e8 8209 8271 85aa 8584 857e 859c 8591 8594 85af 859b
   8587 85a8 858a 8667 87c0 87d1 87b3 87d2 87c6 87ab 87bb 87ba 87c8 87cb 893b 8936 8944 8938 893d
   89ac 8b0e 8b17 8b19 8b1b 8b0a 8b20 8b1d 8b04 8b10 8c41 8c3f 8c73 8cfa 8cfd 8cfc 8cf8 8cfb 8da8
   8e49 8e4b 8e48 8e4a 8f44 8f3e 8f42 8f45 8f3f 907f 907d 9084 9081+2 9080 9139 91a3 919e 919c 934d
   9382 9328 9375 934a 9365 934b 9318 937e 936c 935b 9370 935a 9354 95ca+3 95c8 95c6 96b1 96b8 96d6
   971c 971e 97a0 97d3 9846 98b6 9935 9a01 99ff 9bae 9bab 9baa 9bad 9d3b 9d3f 9e8b 9ecf 9ede 9edc+2
   9edb 9f3e 9f4b 53e2 5695 56ae 58d9 58d8 5b38 5f5d 61e3 6233 64f4 64f2 64fe 6506 64fa+2 64f7 65b7
   66dc 6726 6ab3 6aac 6ac3 6abb 6ab8 6ac2 6aae+2 6b5f 6b78 6baf 7009 700b 6ffe 7006 6ffa 7011 700f
   71fb+2 71fe 71f8 7377 7375 74a7 74bf 7515 7656 7658 7652 77bd 77bf 77bb+2 790e 79ae 7a61+2 7a60
   7ac4+2 7c2b 7c27 7c2a 7c1e 7c23 7c21 7ce7 7e54+2 7e5e 7e5a 7e61 7e52 7e59 7f48 7ff9 7ffb 8077
   8076 81cd 81cf 820a 85cf 85a9 85cd 85d0 85c9 85b0 85ba 85b9 85a6 87ef 87ec 87f2 87e0 8986 89b2
   89f4 8b28 8b39 8b2c 8b2b 8c50 8d05 8e59 8e63 8e66 8e64 8e5f 8e55 8ec0 8f49 8f4d 9087 9083 9088
   91ab+2 91d0 9394 938a 9396 93a2 93b3 93ae 93ac 93b0 9398 939a 9397 95d4 95d6 95d0 95d5 96e2 96dc
   96d9 96db 96de 9724 97a3 97a6 97ad 97f9 984d 984f 984c 984e 9853 98ba 993e+2 993d 992e 99a5 9a0e
   9ac1 9b03 9b06 9b4f 9b4e 9b4d 9bca 9bc9 9bfd 9bc8 9bc0 9d51 9d5d 9d60 9ee0 9f15 9f2c 5133 56a5
   58de+2 58e2 5bf5 9f90 5eec 61f2 61f7 61f6 61f5 6500 650f 66e0 66dd 6ae5 6add 6ada 6ad3 701b 701f
   7028 701a 701d 7015 7018 7206 720d 7258 72a2 7378 737a 74bd 74ca 74e3 7587 7586 765f 7661 77c7
   7919 79b1 7a6b 7a69 7c3e+2 7c38 7c3d 7c37 7c40 7e6b 7e6d 7e79 7e69+2 7f85 7e73 7fb6 7fb9 7fb8
   81d8 85e9 85dd 85ea 85d5 85e4+2 85f7 87fb 8805 880d 87f9 87fe 8960 895f 8956 895e 8b41 8b5c 8b58
   8b49 8b5a 8b4e+2 8b46 8b59 8d08 8d0a 8e7c 8e72 8e87 8e76 8e6c 8e7a 8e74 8f54 8f4e 8fad 908a+2
   91b1 91ae 93e1 93d1 93df 93c3 93c8 93dc+2 93d6 93e2 93cd 93d8 93e4 93d7 93e8 95dc 96b4 96e3 972a
   9727 9761 97dc 97fb 985e 9858 985b 98bc 9945 9949 9a16 9a19 9b0d 9be8 9be7 9bd6 9bdb 9d89 9d61
   9d72 9d6a 9d6c 9e92 9e97 9e93 9eb4 52f8 56a8 56b7 56b6 56b4 56bc 58e4 5b40 5b43 5b7d 5bf6 5dc9
   61f8 61fa 6518 6514 6519 66e6 6727 6aec 703e 7030 7032 7210 737b 74cf 7662 7665 7926 792a 792c
   792b 7ac7 7af6 7c4c 7c43 7c4d 7cef+2 8fae 7e7d 7e7c 7e82 7f4c 8000 81da 8266 85fb 85f9 8611 85fa
   8606 860b 8607 860a 8814+2 8964 89ba 89f8 8b70 8b6c 8b66 8b6f 8b5f 8b6b 8d0f 8d0d 8e89 8e81 8e85
   8e82 91b4 91cb 9418 9403 93fd 95e1 9730 98c4 9952 9951 99a8 9a2b 9a30 9a37 9a35 9c13 9c0d 9e79
   9eb5 9ee8 9f2f 9f5f 9f63 9f61 5137+2 56c1 56c0 56c2 5914 5c6c 5dcd 61fc 61fe 651d 651c 6595 66e9
   6afb 6b04 6afa 6bb2 704c 721b 72a7 74d6 74d4 7669 77d3 7c50 7e8f 7e8c 7fbc 8617 862d 861a 8823
   8822 8821 881f 896a 896c 89bd 8b74 8b77 8b7d 8d13 8e8a 8e8d 8e8b 8f5f 8faf 91ba 942e 9433 9435
   943a 9438 9432 942b 95e2 9738+2 9732 97ff 9867 9865 9957 9a45 9a43 9a40 9a3e 9acf 9b54 9b51 9c2d
   9c25 9daf 9db4 9dc2 9db8 9e9d 9eef 9f19 9f5c 9f66+2 513c 513b 56c8 56ca 56c9 5b7f 5dd4 5dd2 5f4e
   61ff 6524 6b0a 6b61 7051 7058 7380 74e4 758a 766e 766c 79b3 7c60 7c5f 807e 807d 81df 8972 896f
   89fc 8b80 8d16+2 8e91 8e93 8f61 9148 9444 9451+2 973d+2 97c3 97c1 986b 9955 9a55 9a4d 9ad2 9b1a
   9c49 9c31 9c3e 9c3b 9dd3 9dd7 9f34 9f6c 9f6a 9f94 56cc 5dd6 6200 6523 652b 652a 66ec 6b10 74da
   7aca 7c64 7c63 7c65 7e93 7e96 7e94 81e2 8638 863f 8831 8b8a 9090 908f 9463 9460 9464 9768 986f
   995c 9a5a+2 9a57 9ad3+2 9ad1 9c54 9c57 9c56 9de5 9e9f 9ef4 56d1 58e9 652c 705e 7671+2 77d7 7f50
   7f88 8836 8839 8862 8b93 8b92 8b96 8277 8d1b 91c0 946a 9742 9748 9744 97c6 9870 9a5f 9b22 9b58
   9c5f 9df9+2 9e7c+2 9f07 9f77 9f72 5ef3 6b16 7063 7c6c 7c6e 883b 89c0 8ea1 91c1 9472 9470 9871
   995e 9ad6 9b23 9ecc 7064 77da 8b9a 9477 97c9 9a62 9a65 7e9c 8b9c 8eaa 91c5 947d+2 947c 9c77+2
   9ef7 8c54 947f 9e1a 7228 9a6a 9b31 9e1b 9e1e 7c72 2460+a 2474+a 2170+a 4e36 4e3f 4e85 4ea0 5182
   5196 51ab 52f9 5338 5369 53b6 590a 5b80 5ddb 2f33 5e7f 5ef4 5f50 5f61 6534 65e0 7592 7676 8fb5
   96b6 a8 2c6 30fd+2 309d+2 3003 4edd 3005+3 30fc ff3b ff3d 273d 3041+53 30a1+56 410+6 401 416+20
   451 436+1a 21e7 21b8+2 31cf 200cc 4e5a 2008a 5202 4491 9fb0 5188 9fb1 27607 -28 ffe2 ffe4 ff07
   ff02 3231 2116 2121 309b+2 2e80 2e84 2e86+3 2e8a 2e8c+2 2e95 2e9c+2 2ea5 2ea7 2eaa 2eac 2eae
   2eb6 2ebc 2ebe 2ec6 2eca 2ecc+2 2ecf 2ed6+2 2ede 2ee3 -3 283 250 25b 254 275 153 f8 14b 28a 26a
   4e42 4e5c 51f5 531a 5382 4e07 4e0c 4e47 4e8d 56d7 fa0c 5c6e 5f73 4e0f 5187 4e0e 4e2e 4e93 4ec2
   4ec9 4ec8 5198 52fc 536c 53b9 5720 5903 592c 5c10 5dff 65e1 6bb3 6bcc 6c14 723f 4e31 4e3c 4ee8
   4edc 4ee9 4ee1 4edd 4eda 520c 531c 534c 5722+2 5917 592f 5b81 5b84 5c12 5c3b 5c74 5c73 5e04 5e80
   5e82 5fc9 6209 6250 6c15 6c36 6c43 6c3f 6c3b 72ae 72b0 738a 79b8 808a 961e 4f0e 4f18 4f2c 4ef5
   4f14 4ef1 4f00 4ef7 4f08 4f1d 4f02 4f05 4f22 4f13 4f04 4ef4 4f12 51b1 5213 5209 5210 52a6 5322
   531f 534d 538a 5407 56e1 56df 572e 572a 5734 593c 5980 597c 5985 597b 597e 5977 597f 5b56 5c15
   5c25 5c7c 5c7a+2 5c7e 5ddf 5e75 5e84 5f02 5f1a 5f74 5fd5 5fd4 5fcf 625c 625e 6264 6261 6266 6262
   6259 6260 625a 6265 65ef 65ee 673e 6739 6738 673b 673a 673f 673c 6733 6c18 6c46 6c52 6c5c 6c4f
   6c4a 6c54 6c4b+2 7071 725e 72b4+2 738e 752a 767f 7a75 7f51 8278 827c 8280 827d 827f 864d 897e
   9099 9097+2 909b 9094 9622 9624 9620 9623 4f56 4f3b 4f62 4f49 4f53 4f64 4f3e 4f67 4f52 4f5f 4f41
   4f58 4f2d 4f33 4f3f 4f61 518f 51b9 521c 521e 5221 52ad+2 5309 5363 5372 538e+2 5430 5437 542a
   5454 5445 5419 541c 5425 5418 543d 544f 5441 5428 5424 5447 56ee 56e7 56e5 5741 5745 574c 5749
   574b 5752 5906 5940 59a6 5998 59a0 5997 598e 59a2 5990 598f 59a7 59a1 5b8e 5b92 5c28 5c2a 5c8d
   5c8f 5c88 5c8b 5c89 5c92 5c8a 5c86 5c93 5c95 5de0 5e0a 5e0e 5e8b 5e89 5e8c 5e88 5e8d 5f05 5f1d
   5f78 5f76 5fd2 5fd1 5fd0 5fed 5fe8 5fee 5ff3 5fe1 5fe4 5fe3 5ffa 5fef 5ff7 5ffb 6000 5ff4 623a
   6283 628c 628e+2 6294 6287 6271 627b 627a 6270 6281 6288 6277 627d 6272 6274 6537 65f0 65f4 65f3
   65f2 65f5 6745 6747 6759 6755 674c 6748 675d 674d 675a 674b 6bd0 6c19+2 6c78 6c67 6c6b 6c84 6c8b
   6c8f 6c71 6c6f 6c69 6c9a 6c6d 6c87 6c95 6c9c 6c66 6c73 6c65 6c7b 6c8e 7074 707a 7263 72bf 72bd
   72c3 72c6 72c1 72ba 72c5 7395 7397 7393+2 7392 753a 7539 7594+2 7681 793d 8034 8095 8099 8090
   8092 809c 8290 828f 8285 828e 8291 8293 828a 8283+2 8c78 8fc9 8fbf 909f 90a1 90a5 909e 90a7 90a0
   9630 9628 962f 962d 4e33 4f98 4f7c 4f85 4f7d 4f80 4f87 4f76 4f74 4f89 4f84 4f77 4f4c 4f97 4f6a
   4f9a 4f79 4f81 4f78 4f90 4f9c 4f94 4f9e 4f92 4f82 4f95 4f6b 4f6e 519e 51bc 51be 5235 5232+2 5246
   5231 52bc 530a+2 533c 5392 5394 5487 547f 5481 5491 5482 5488 546b 547a 547e 5465 546c 5474 5466
   548d 546f 5461 5460 5498 5463 5467 5464 56f7 56f9 576f 5772 576d 576b 5771 5770 5776 5780 5775
   577b 5773+2 5762 5768 577d 590c 5945 59b5 59ba 59cf 59ce 59b2 59cc 59c1 59b6 59bc 59c3 59d6 59b1
   59bd 59c0 59c8 59b4 59c7 5b62 5b65 5b93 5b95 5c44 5c47 5cae 5ca4 5ca0 5cb5 5caf 5ca8 5cac 5c9f
   5ca3 5cad 5ca2 5caa 5ca7 5c9d 5ca5 5cb6 5cb0 5ca6 5e17 5e14 5e19 5f28 5f22+3 5f54 5f82 5f7e 5f7d
   5fde 5fe5 602d 6026 6019 6032 600b 6034 600a 6017 6033 601a 601e 602c 6022 600d 6010 602e 6013
   6011 600c 6009 601c 6214 623d 62ad 62b4 62d1 62be 62aa 62b6 62ca 62ae 62b3 62af 62bb 62a9 62b0
   62b8 653d 65a8 65bb 6609 65fc 6604 6612 6608 65fb 6603 660b 660d 6605 65fd 6611 6610 66f6 670a
   6785 676c 678e 6792 6776 677b 6798 6786 6784 6774 678d 678c 677a 679f 6791 6799 6783 677d 6781
   6778+2 6794 6b25 6b80 6b7e 6bde 6c1d 6c93 6cec 6ceb 6cee 6cd9 6cb6 6cd4 6cad 6ce7 6cb7 6cd0 6cc2
   6cba 6cc3 6cc6 6ced 6cf2 6cd2 6cdd 6cb4 6c8a 6c9d 6c80 6cde 6cc0 6d30 6ccd 6cc7 6cb0 6cf9 6ccf
   6ce9 6cd1 7094 7098 7085 7093 7086 7084 7091 7096 7082 709a 7083 726a 72d6 72cb 72d8 72c9 72dc
   72d2 72d4 72da 72cc 72d1 73a4 73a1 73ad 73a6 73a2 73a0 73ac 739d 74dd 74e8 753f+2 753e 758c 7598
   76af 76f3 76f1 76f0 76f5 77f8 77fc 77f9 77fb 77fa 77f7 7942 793f 79c5 7a78 7a7b 7afb 7c75 7cfd
   8035 808f 80ae 80a3 80b8 80b5 80ad 8220 82a0 82c0 82ab 829a 8298 829b 82b5 82a7 82ae 82bc 829e
   82ba 82b4 82a8 82a1 82a9 82c2 82a4 82c3 82b6 82a2 8670 866f 866d+2 8c56 8fd2 8fcb 8fd3 8fcd 8fd6
   8fd5 8fd7 90b2 90b4 90af 90b3 90b0 9639 963d 963c 963a 9643 4fcd 4fc5 4fd3 4fb2 4fc9 4fcb 4fc1
   4fd4 4fdc 4fd9 4fbb 4fb3 4fdb 4fc7 4fd6 4fba 4fc0 4fb9 4fec 5244 5249 52c0 52c2 533d 537c 5397
   5396 5399 5398 54ba 54a1 54ad 54a5 54cf 54c3 830d 54b7 54ae 54d6 54b6 54c5+2 54a0 5470 54bc 54a2
   54be 5472 54de 54b0 57b5 579e+2 57a4 578c 5797 579d 579b 5794 5798 578f 5799 57a5 579a 5795 58f4
   590d 5953 59e1 59de 59ee 5a00 59f1 59dd 59fa 59fd 59fc 59f6 59e4 59f2 59f7 59db 59e9 59f3 59f5
   59e0 59fe 59f4 59ed 5ba8 5c4c 5cd0 5cd8 5ccc 5cd7 5ccb 5cdb 5cde 5cda 5cc9 5cc7 5cca 5cd6 5cd3+2
   5ccf 5cc8 5cc6 5cce 5cdf 5cf8 5df9 5e21+3 5e20 5e24 5eb0 5ea4 5ea2 5e9b 5ea3 5ea5 5f07 5f2e 5f56
   5f86 6037 6039 6054 6072 605e 6045 6053 6047 6049 605b 604c 6040 6042 605f 6024 6044 6058 6066
   606e 6242+2 62cf 630d 630b 62f5 630e 6303 62eb 62f9 630f 630c 62f8 62f6 6300 6313+2 62fa 6315
   62fb 62f0 6541 6543 65aa 65bf 6636 6621 6632 6635 661c 6626 6622 6633 662b 663a 661d 6634 6639
   662e 670f+2 67c1 67f2 67c8 67ba 67dc 67bb 67f8 67d8 67c0 67b7 67c5 67eb 67e4 67df 67b5 67cd 67b3
   67f7 67f6 67ee 67e3 67c2 67b9 67ce 67e7 67f0 67b2 67fc 67c6 67ed 67cc 67ae 67e6 67db 67fa 67c9+2
   67c3 67ea 67cb 6b28 6b82 6b84 6bb6 6bd6 6bd8 6be0 6c20+2 6d28 6d34 6d2d 6d1f 6d3c 6d3f 6d12 6d0a
   6cda 6d33 6d04 6d19 6d3a 6d1a 6d11 6d00 6d1d 6d42 6d01 6d18 6d37 6d03 6d0f 6d40 6d07 6d20 6d2c
   6d08 6d22 6d09 6d10 70b7 709f 70be 70b1 70b0 70a1 70b4+2 70a9 7241 7249+2 726c 7270 7273 726e
   72ca 72e4 72e8 72eb 72df 72ea 72e6 72e3 7385 73cc 73c2 73c8 73c5 73b9 73b6 73b5 73b4 73eb 73bf
   73c7 73be 73c3 73c6 73b8 73cb 74ec 74ee 752e 7547+2 75a7 75aa 7679 76c4 7708 7703+3 770a 76f7
   76fb 76fa 77e7+2 7806 7811+2 7805 7810 780f 780e 7809 7803 7813 794a 794c 794b 7945 7944 79d5
   79cd 79cf 79d6 79ce 7a80 7a7e 7ad1 7b00+2 7c7a 7c78+2 7c7f+3 7d03 7d08 7d01 7f58 7f91 7f8d 7fbe
   8007 800e+2 8014 8037 80d8 80c7 80e0 80d1 80c8 80c2 80d0 80c5 80e3 80d9 80dc 80ca 80d5 80c9 80cf
   80d7 80e6 80cd 81ff 8221 8294 82d9 82fe 82f9 8307 82e8 8300 82d5 833a 82eb 82d6 82f4 82ec 82e1
   82f2 82f5 830c 82fb 82f6 82f0 82ea 82e4 82e0 82fa 82f3 82ed 8677 8674 867c 8673 8841 884e 8867
   886a 8869 89d3 8a04 8a07 8d72 8fe3 8fe1 8fee 8fe0 90f1 90bd 90bf 90d5 90c5 90be 90c7 90cb 90c8
   91d4 91d3 9654 964f 9651 9653 964a 964e 501e 5005 5007 5013 5022 5030 501b 4ff5 4ff4 5033 5037
   502c 4ff6+2 5017 501c 5020 5027 5035 502f 5031 500e 515a 5194 5193 51ca 51c4+2 51c8 51ce 5261
   525a 5252 525e+2 5255 5262 52cd 530e 539e 5526 54e2 5517 5512 54e7 54f3 54e4 551a 54ff 5504 5508
   54eb 5511 5505 54f1 550a 54fb 54f7+2 54e0 550e 5503 550b 5701+2 57cc 5832 57d5 57d2 57ba 57c6
   57bd 57bc 57b8 57b6 57bf 57c7 57d0 57b9 57c1 590e 594a 5a19 5a16 5a2d+2 5a15 5a0f 5a17 5a0a 5a1e
   5a33 5b6c 5ba7 5bad 5bac 5c03 5c56 5c54 5cec 5cff 5cee 5cf1 5cf7 5d00 5cf9 5e29 5e28 5ea8 5eae
   5eaa 5eac 5f33 5f30 5f67 605d 605a 6067 6041 60a2 6088 6080 6092 6081 609d 6083 6095 609b 6097
   6087 609c 608e 6219 6246 62f2 6310 6356 632c 6344+2 6336 6343 63e4 6339 634b 634a 633c 6329 6341
   6334 6358 6354 6359 632d 6347 6333 635a 6351 6338 6357 6340 6348 654a 6546 65c6 65c3+2 65c2 664a
   665f 6647 6651 6712+2 681f 681a 6849 6832+2 683b 684b 684f 6816 6831 681c 6835 682b 682d 682f
   684e 6844 6834 681d 6812 6814 6826 6828 682e 684d 683a 6825 6820 6b2c 6b2f 6b2d 6b31 6b34 6b6d
   8082 6b88 6be6 6be4 6be8 6be3 6be2 6be7 6c25 6d7a 6d63+2 6d76 6d0d 6d61 6d92 6d58 6d62 6d6d 6d6f
   6d91 6d8d 6def 6d7f 6d86 6d5e 6d67 6d60 6d97 6d70 6d7c 6d5f 6d82 6d98 6d2f 6d68 6d8b 6d7e 6d80
   6d84 6d16 6d83 6d7b 6d7d 6d75 6d90 70dc 70d3 70d1 70dd 70cb 7f39 70e2 70d7 70d2 70de 70e0 70d4
   70cd 70c5+3 70da 70ce 70e1 7242 7278 7277 7276 7300 72fa 72f4 72fe 72f6 72f3 72fb 7301 73d3 73d9
   73e5 73d6 73bc 73e7 73e3 73e9 73dc 73d2 73db 73d4 73dd 73da 73d7+2 73e8 74de+2 74f4+2 7521 755b
   755f 75b0 75c1 75bb 75c4 75c0 75bf 75b6 75ba 768a 76c9 771d 771b 7710 7713 7712 7723 7711 7715
   7719+2 7722 7727 7823 782c 7822 7835 782f 7828 782e 782b 7821 7829 7833 782a 7831 7954 795b 794f
   795c 7953 7952 7951 79eb+2 79e0 79ee 79ed 79ea 79dc 79de 79dd 7a86 7a89 7a85 7a8b+2 7a8a 7a87
   7ad8 7b10 7b04 7b13 7b05 7b0f 7b08 7b0a 7b0e 7b09 7b12 7c84 7c91 7c8a 7c8c 7c88 7c8d 7c85 7d1e
   7d1d 7d11 7d0e 7d18 7d16 7d13 7d1f 7d12 7d0f 7d0c 7f5c 7f61 7f5e 7f60 7f5d 7f5b 7f96 7f92 7fc3
   7fc2 7fc0 8016 803e 8039 80fa 80f2 80f9 80f5 8101 80fb 8100 8201 822f 8225 8333 832d 8344 8319
   8351 8325 8356 833f 8341 8326 831c 8322 8342 834e 831b 832a 8308 833c 834d 8316 8324 8320 8337
   832f 8329 8347 8345 834c 8353 831e 832c 834b 8327 8348 8653 8652 86a2 86a8 8696 868d 8691 869e
   8687 8697 8686 868b 869a 8685 86a5 8699 86a1 86a7 8695 8698 868e 869d 8690 8694 8843+2 886d
   8875+2 8872 8880 8871 887f 886f 8883 887e 8874 887c 8a12 8c47 8c57 8c7b 8ca4 8ca3 8d76 8d78 8db5
   8db7 8db6 8ed1 8ed3 8ffe 8ff5 9002 8fff 8ffb 9004 8ffc 8ff6 90d6 90e0 90d9+2 90e3 90df 90e5 90d8
   90db 90d7 90dc 90e4 9150 914e+2 91d5 91e2 91da 965c 965f 96bc 98e3 9adf 9b2f 4e7f 5070 506a 5061
   505e 5060 5053 504b 505d 5072 5048 504d 5041 505b 504a 5062 5015 5045 505f 5069 506b 5063+2 5046
   5040 506e 5073 5057 5051 51d0 526b 526d 526c 526e 52d6 52d3 532d 539c 5575+2 553c 554d 5550 5534
   552a 5551 5562 5536 5535 5530 5552 5545 550c 5532 5565 554e 5539 5548 552d 553b 5540 554b 570a
   5707 57fb 5814 57e2 57f6 57dc 57f4 5800 57ed 57fd 5808 57f8 580b 57f3 57cf 5807 57ee 57e3 57f2
   57e5 57ec 57e1 580e 57fc 5810 57e7 5801 580c 57f1 57e9 57f0 580d 5804 595c 5a60 5a58 5a55 5a67
   5a5e 5a38 5a35 5a6d 5a50 5a5f 5a65 5a6c 5a53 5a64 5a57 5a43 5a5d 5a52 5a44 5a5b 5a48 5a8e 5a3e
   5a4d 5a39 5a4c 5a70 5a69 5a47 5a51 5a56 5a42 5a5c 5b72 5b6e 5bc1 5bc0 5c59 5d1e 5d0b 5d1d 5d1a
   5d20 5d0c 5d28 5d0d 5d26 5d25 5d0f 5d30 5d12 5d23 5d1f 5d2e 5e3e 5e34 5eb1 5eb4 5eb9 5eb2+2 5f36
   5f38 5f9b 5f96 5f9f 608a 6090 6086 60be 60b0 60ba 60d3+2 60cf 60e4 60d9 60dd 60c8 60b1 60db 60b7
   60ca 60bf 60c3 60cd 60c0 6332 6365 638a 6382 637d 63bd 639e 63ad 639d 6397 63ab 638e 636f 6387
   6390 636e 63af 6375 639c 636d 63ae 637c 63a4 633b 639f 6378 6385 6381 6391 638d 6370 6553 65cd
   6665 6661 665b 6659 665c 6662 6718 6879 6887 6890 689c 686d+2 68ae 68ab 6956 686f 68a3 68ac 68a9
   6875 6874 68b2 688f 6877 6892 687c 686b 6872 68aa 6880 6871 687e 689b 6896 688b 68a0 6889 68a4
   6878 687b 6891 688c 688a 687d 6b36 6b33 6b37+2 6b91 6b8f 6b8d+2 6b8c 6c2a 6dc0 6dab 6db4 6db3
   6e74 6dac 6de9 6de2 6db7 6df6 6dd4 6e00 6dc8 6de0 6ddf 6dd6 6dbe 6de5 6ddc+2 6ddb 6df4 6dca 6dbd
   6ded 6df0 6dba 6dd5 6dc2 6dcf 6dc9 6dd0 6df2 6dd3 6dfd 6dd7 6dcd 6de3 6dbb 70fa 710d 70f7 7117
   70f4 710c 70f0 7104 70f3 7110 70fc 70ff 7106 7113 7100 70f8 70f6 710b 7102 710e 727e 727b+2 727f
   731d 7317 7307 7311 7318 730a 7308 72ff 730f 731e 7388 73f6 73f8 73f5 7404 7401 73fd 7407 7400
   73fa 73fc 73ff 740c 740b 73f4 7408 7564 7563 75ce 75d2 75cf 75cb+2 75d1 75d0 768f 7689 76d3 7739
   772f 772d 7731+2 7734 7733 773d 7725 773b 7735 7848 7852 7849 784d 784a 784c 7826 7845 7850 7964
   7967 7969+2 7963 796b 7961 79bb 79fa 79f8 79f6+2 7a8f 7a94 7a90 7b35 7b47 7b34 7b25 7b30 7b22
   7b24 7b33 7b18 7b2a 7b1d 7b31 7b2b 7b2d 7b2f 7b32 7b38 7b1a 7b23 7c94 7c98 7c96 7ca3 7d35 7d3d
   7d38 7d36 7d3a 7d45 7d2c 7d29 7d41 7d47 7d3e+2 7d4a 7d3b 7d28 7f63 7f95 7f9c+2 7f9b 7fca+2 7fcd
   7fd0+2 7fc7 7fcf 7fc9 801f 801e 801b 8047 8043 8048 8118 8125 8119 811b 812d 811f 812c 811e 8121
   8115 8127 811d 8122 8211 8238 8233 823a 8234 8232 8274 8390 83a3 83a8 838d 837a 8373 83a4 8374
   838f 8381 8395 8399 8375 8394 83a9 837d 8383 838c 839d 839b 83aa 838b 837e 83a5 83af 8388 8397
   83b0 837f 83a6 8387 83ae 8376 839a 8659 8656 86bf 86b7 86c2 86c1 86c5 86ba 86b0 86c8 86b9 86b3
   86b8 86cc 86b4 86bb+2 86c3 86bd+2 8852 8889 8895 88a8 88a2 88aa 889a 8891 88a1 889f 8898 88a7
   8899 889b 8897 88a4 88ac 888c 8893 888e 8982 89d6 89d9 89d5 8a30 8a27 8a2c 8a1e 8c39 8c3b 8c5c+2
   8c7d 8ca5 8d7d 8d7b 8d79 8dbc 8dc2 8db9 8dbf 8dc1 8ed8 8ede 8edd 8edc 8ed7 8ee0+2 9024 900b 9011
   901c 900c 9021 90ef 90ea 90f0 90f4 90f2+2 90d4 90eb+2 90e9 9156 9158 915a 9153 9155 91ec 91f4
   91f1 91f3 91f8 91e4 91f9 91ea+2 91f7 91e8 91ee 957a 9586 9588 967c 966d 966b 9671 966f 96bf 976a
   9804 98e5 9997 509b 5095 5094 509e 508b 50a3 5083 508c 508e 509d 5068 509c 5092 5082 5087 515f
   51d4 5312 5311 53a4 53a7 5591 55a8 55a5 55ad 5577 5645 55a2 5593 5588 558f 55b5 5581 55a3 5592
   55a4 557d 558c 55a6 557f 5595 55a1 558e 570c 5829 5837 5819 581e 5827 5823 5828 57f5 5848 5825
   581c 581b 5833 583f 5836 582e 5839 5838 582d 582c 583b 5961 5aaf 5a94 5a9f 5a7a 5aa2 5a9e 5a78
   5aa6 5a7c 5aa5 5aac 5a95 5aae 5a37 5a84 5a8a 5a97 5a83 5a8b 5aa9 5a7b 5a7d 5a8c 5a9c 5a8f 5a93
   5a9d 5bea 5bcd 5bcb 5bd4 5bd1 5bca 5bce 5c0c 5c30 5d37 5d43 5d6b 5d41 5d4b 5d3f 5d35 5d51 5d4e
   5d55 5d33 5d3a 5d52 5d3d 5d31 5d59 5d42 5d39 5d49 5d38 5d3c 5d32 5d36 5d40 5d45 5e44 5e41 5f58
   5fa6 5fa5 5fab 60c9 60b9 60cc 60e2 60ce 60c4 6114 60f2 610a 6116 6105 60f5 6113 60f8 60fc 60fe
   60c1 6103 6118 611d 6110 60ff 6104 610b 624a 6394 63b1 63b0 63ce 63e5 63e8 63ef 63c3 649d 63f3
   63ca 63e0 63f6 63d5 63f2 63f5 6461 63df 63be 63dd 63dc 63c4 63d8 63d3 63c2 63c7 63cc 63cb 63c8
   63f0 63d7 63d9 6532 6567 656a 6564 655c 6568 6565 658c 659d+2 65ae 65d0 65d2 667c 666c 667b 6680
   6671 6679 666a 6672 6701 690c 68d3 6904 68dc 692a 68ec 68ea 68f1 690f 68d6 68f7 68eb 68e4 68f6
   6913 6910 68f3 68e1 6907 68cc 6908 6970 68b4 6911 68ef 68c6 6914 68f8 68d0 68fd 68fc 68e8 690b
   690a 6917 68ce 68c8 68dd+2 68e6 68f4 68d1 6906 68d4 68e9 6915 6925 68c7 6b39 6b3b 6b3f 6b3c 6b94
   6b97 6b99 6b95 6bbd 6bf0 6bf2+2 6c30 6dfc 6e46+2 6e1f 6e49 6e88 6e3c+2 6e45 6e62 6e2b 6e3f 6e41
   6e5d 6e73 6e1c 6e33 6e4b 6e40 6e51 6e3b 6e03 6e2e 6e5e 6e68 6e5c 6e61 6e31 6e28 6e60 6e71 6e6b
   6e39 6e22 6e30 6e53 6e65 6e27 6e78 6e64 6e77 6e55 6e79 6e52 6e66 6e35+2 6e5a 7120 711e 712f 70fb
   712e 7131 7123 7125 7122 7132 711f 7128 713a 711b 724b 725a 7288+2 7286 7285 728b 7312 730b 7330
   7322 7331 7333 7327 7332 732d 7326 7323 7335 730c 742e 742c 7430 742b 7416 741a 7421 742d 7431
   7424 7423 741d 7429 7420 7432 74fb 752f 756f 756c 75e7 75da 75e1 75e6 75dd 75df 75e4 75d7 7695
   7692 76da 7746+2 7744 774d 7745 774a 774e 774b+2 77de 77ec 7860 7864+2 785c 786d 7871 786a 786e
   7870 7869 7868 785e 7862 7974 7973 7972 7970 7a02 7a0a 7a03 7a0c 7a04 7a99 7ae6 7ae4 7b4a 7b3b
   7b44 7b48 7b4c 7b4e 7b40 7b58 7b45 7ca2 7c9e 7ca8 7ca1 7d58 7d6f 7d63 7d53 7d56 7d67 7d6a 7d4f
   7d6d 7d5c 7d6b 7d52 7d54 7d69 7d51 7d5f 7d4e 7f3e+2 7f65+2 7fa2 7fa0+2 7fd7 8051 804f+2 80fe
   80d4 8143 814a 8152 814f 8147 813d 814d 813a 81e6 81ee 81f7+3 8204 823c+2 823f 8275 833b 83cf
   83f9 8423 83c0 83e8 8412 83e7 83e4 83fc 83f6 8410 83c6 83c8 83eb 83e3 83bf 8401 83dd 83e5 83d8
   83ff 83e1 83cb 83ce 83d6 83f5 83c9 8409 840f 83de 8411 8406 83c2 83f3 83d5 83fa 83c7 83d1 83ea
   8413 83c3 83ec 83ee 83c4 83fb 83d7 83e2 841b 83db 83fe 86d8 86e2 86e6 86d3 86e3 86da 86ea 86dd
   86eb 86dc 86ec 86e9 86d7 86e8 86d1 8848 8856 8855 88ba 88d7 88b9 88b8 88c0 88be 88b6 88bc 88b7
   88bd 88b2 8901 88c9 8995 8998 8997 89dd 89da+2 8a4e 8a4d 8a39 8a59 8a40 8a57+2 8a44+2 8a52 8a48
   8a51 8a4a 8a4c 8a4f 8c5f 8c81 8c80 8cba 8cbe 8cb0 8cb9 8cb5 8d84 8d80 8d89 8dd8 8dd3 8dcd 8dc7
   8dd6 8ddc 8dcf 8dd5 8dd9 8dc8 8dd7 8dc5 8eef 8ef7 8efa 8ef9 8ee6 8eee 8ee5 8ef5 8ee7+2 8ef6 8eeb
   8ef1 8eec 8ef4 8ee9 902d 9034 902f 9106 912c 9104 90ff 90fc 9108 90f9 90fb 9101 9100 9107 9105
   9103 9161 9164 915f 9162 9160 9201 920a 9225 9203 921a 9226 920f 920c 9200 9212 91ff 91fd 9206
   9204 9227 9202 921c 9224 9219 9217 9205 9216 957b 958d 958c 9590 9687 967e 9688+2 9683 9680 96c2
   96c8 96c3 96f1 96f0 976c 9770 976e 9807 98a9 98eb 9ce6 9ef9 4e83+2 4eb6 50bd 50bf 50c6 50ae 50c4
   50ca 50b4 50c8 50c2 50b0 50c1 50ba 50b1 50cb 50c9 50b6 50b8 51d7 527a 5278 527b+2 55c3 55db 55cc
   55d0 55cb 55ca 55dd 55c0 55d4 55c4 55e9 55bf 55d2 558d 55cf 55d5 55e2 55d6 55c8 55f2 55cd 55d9
   55c2 5714 5853 5868 5864 584f 584d 5849 586f 5855 584e 585d 5859 5865 585b 583d 5863 5871 58fc
   5ac7 5ac4 5acb 5aba 5ab8 5ab1 5ab5 5ab0 5abf 5ac8 5abb 5ac6 5ab7 5ac0 5aca 5ab4 5ab6 5acd 5ab9
   5a90 5bd6 5bd8+2 5c1f 5c33 5d71 5d63 5d4a 5d65 5d72 5d6c 5d5e 5d68 5d67 5d62 5df0 5e4f 5e4e 5e4a
   5e4d 5e4b 5ec5 5ecc 5ec6 5ecb 5ec7 5f40 5faf 5fad 60f7 6149+2 612b 6145 6136 6132 612e 6146 612f
   614f 6129 6140 6220 9168 6223 6225 6224 63c5 63f1 63eb 6410 6412 6409 6420 6424 6433 6443 641f
   6415 6418 6439 6437 6422+2 640c 6426 6430 6428 6441 6435 642f 640a 641a 6440 6425 6427 640b 63e7
   641b 642e 6421 640e 656f 6592 65d3 6686 668c 6695 6690 668b 668a 6699 6694 6678 6720 6966 695f
   6938 694e 6962 6971 693f 6945 696a 6939 6942 6957 6959 697a 6948+2 6935 696c 6933 693d 6965 68f0
   6978 6934 6969 6940 696f 6944 6976 6958 6941 6974 694c 693b 694b 6937 695c 694f 6951 6932 6952
   692f 697b 693c 6b46 6b45 6b43 6b42 6b48 6b41 6b9b fa0d 6bfb+2 6bf9 6bf7+2 6e9b 6ed6 6ec8 6e8f
   6ec0 6e9f 6e93+2 6ea0 6eb1 6eb9 6ec6 6ed2 6ebd 6ec1 6e9e 6ec9 6eb7 6eb0 6ecd 6ea6 6ecf 6eb2 6ebe
   6ec3 6edc 6ed8 6e99 6e92 6e8e 6e8d 6ea4 6ea1 6ebf 6eb3 6ed0 6eca 6e97 6eae 6ea3 7147 7154 7152
   7163 7160 7141 715d 7162 7172 7178 716a 7161 7142 7158 7143 714b 7170 715f 7150 7153 7144 714d
   715a 724f 728d 728c 7291 7290 728e 733c 7342 733b 733a 7340 734a 7349 7444 744a+2 7452 7451 7457
   7440 744f+2 744e 7442 7446 744d 7454 74e1 74ff 74fe 74fd 751d 7579 7577 6983 75ef 760f 7603 75f7
   75fe 75fc 75f9 75f8 7610 75fb 75f6 75ed 75f5 75fd 7699 76b5 76dd 7755 775f+2 7752 7756 775a 7769
   7767 7754 7759 776d 77e0 7887 789a 7894 788f 7884 7895 7885+2 78a1 7883 7879 7899 7880 7896 787b
   797c 7982 797d 7979 7a11 7a18+2 7a12 7a17 7a15 7a22 7a13 7a1b 7a10 7aa3 7aa2 7a9e 7aeb 7b66 7b64
   7b6d 7b74 7b69 7b72 7b65 7b73 7b71 7b70 7b61 7b78 7b76 7b63 7cb2 7cb4 7caf 7d88 7d86 7d80 7d8d
   7d7f 7d85 7d7a 7d8e 7d7b 7d83 7d7c 7d8c 7d94 7d84 7d7d 7d92 7f6d 7f6b 7f67+2 7f6c 7fa6 7fa5 7fa7
   7fdb+2 8021 8164 8160 8177 815c 8169 815b 8162 8172 6721 815e 8176 8167 816f 8144 8161 821d 8249
   8244 8240 8242 8245 84f1 843f 8456 8476 8479 848f 848d 8465 8451 8440 8486 8467 8430 844d 847d
   845a 8459 8474 8473 845d 8507 845e 8437 843a 8434 847a 8443 8478 8432 8445 8429 83d9 844b 842f
   8442 842d 845f 8470 8439 844e 844c 8452 846f 84c5 848e 843b 8447 8436 8433 8468 847e 8444 842b
   8460 8454 846e 8450 870b 8704 86f7 870c 86fa 86d6 86f5 874d 86f8 870e 8709 8701 86f6 870d 8705
   88d6 88cb 88cd+2 88de 88db 88da 88cc 88d0 8985 899b 89df 89e5 89e4 89e1 89e0 89e2 89dc 89e6 8a76
   8a86 8a7f 8a61 8a3f 8a77 8a82 8a84 8a75 8a83 8a81 8a74 8a7a 8c3c 8c4b 8c4a 8c65 8c64 8c66 8c86
   8c84+2 8ccc 8d68+2 8d91 8d8c 8d8e+2 8d8d 8d93+2 8d90 8d92 8df0 8de0 8dec 8df1 8dee 8dd0 8de9
   8de3 8de2 8de7 8df2 8deb 8df4 8f06 8eff 8f01 8f00 8f05 8f07+2 8f02 8f0b 9052 903f 9044 9049 903d
   9110 910d 910f 9111 9116 9114 910b 910e 916e+2 9248 9252 9230 923a 9266 9233 9265 925e 9283 922e
   924a 9246 926d 926c 924f 9260 9267 926f 9236 9261 9270 9231 9254 9263 9250 9272 924e 9253 924c
   9256 9232 959f 959c 959e 959b 9692+2 9691 9697 96ce 96fa 96fd 96f8 96f5 9773 9777+2 9772 980f
   980d+2 98ac 98f6 98f9 99af 99b2 99b0 99b5 9aad 9aab 9b5b 9cea 9ced 9ce7 9e80 9efd 50e6 50d4 50d7
   50e8 50f3 50db 50ea 50dd 50e4 50d3 50ec 50f0 50ef 50e3 50e0 51d8 5280+2 52e9 52eb 5330 53ac 5627
   5615 560c 5612 55fc 560f 561c 5601 5613 5602 55fa 561d 5604 55ff 55f9 5889 587c 5890 5898 5886
   5881 587f 5874 588b 587a 5887 5891 588e 5876 5882 5888 587b 5894 588f 58fe 596b 5adc 5aee 5ae5
   5ad5 5aea 5ada 5aed 5aeb 5af3 5ae2 5ae0 5adb 5aec 5ade 5add 5ad9 5ae8 5adf 5b77 5be0 5be3 5c63
   5d82 5d80 5d7d 5d86 5d7a 5d81 5d77 5d8a 5d89 5d88 5d7e 5d7c 5d8d 5d79 5d7f 5e58+2 5e53 5ed8 5ed1
   5ed7 5ece 5edc 5ed5 5ed9 5ed2 5ed4 5f44 5f43 5f6f 5fb6 612c 6128 6141 615e 6171 6173 6152+2 6172
   616c 6180 6174 6154 617a 615b 6165 613b 616a 6161 6156 6229 6227 622b 642b 644d 645b 645d 6474
   6476 6472+2 647d 6475 6466 64a6 644e 6482 645e 645c 644b 6453 6460 6450 647f 643f 646c 646b 6459
   6465 6477 6573 65a0 66a1 66a0 669f 6705 6704 6722 69b1 69b6 69c9 69a0 69ce 6996 69b0 69ac 69bc
   6991 6999 698e 69a7 698d 69a9 69be 69af 69bf 69c4 69bd 69a4 69d4 69b9 69ca 699a 69cf 69b3 6993
   69aa 69a1 699e 69d9 6997 6990 69c2 69b5 69a5 69c6 6b4a 6b4d 6b4b 6b9e+3 6bc3+2 6bfe 6ece 6ef5
   6ef1 6f03 6f25 6ef8 6f37 6efb 6f2e 6f09 6f4e 6f19+2 6f27 6f18 6f3b 6f12 6eed 6f0a 6f36 6f73 6ef9
   6eee 6f2d 6f40 6f30 6f3c 6f35 6eeb 6f07 6f0e 6f43 6f05 6efd 6ef6 6f39 6f1c 6efc 6f3a 6f1f 6f0d
   6f1e 6f08 6f21 7187 7190 7189 7180 7185 7182 718f 717b 7186 7181 7197 7244 7253 7297 7295 7293
   7343 734d 7351 734c 7462 7473 7471 7475 7472 7467 746e 7500 7502+2 757d 7590 7616 7608 760c 7615
   7611 760a 7614 76b8 7781 777c 7785 7782 776e 7780 776f 777e 7783 78b2 78aa 78b4 78ad 78a8 787e
   78ab 789e 78a5 78a0 78ac 78a2 78a4 7998 798a+2 7996 7995 7994 7993 7997 7988 7992 7990 7a2b 7a4a
   7a30 7a2f 7a28 7a26 7aa8 7aab+2 7aee 7b88 7b9c 7b8a 7b91 7b90 7b96 7b8d 7b8c 7b9b 7b8e 7b85 7b98
   5284 7b99 7ba4 7b82 7cbb 7cbf 7cbc 7cba 7da7 7db7 7dc2 7da3 7daa 7dc1 7dc0 7dc5 7d9d 7dce 7dc4
   7dc6 7dcb+2 7daf 7db9 7d96 7dbc 7d9f 7da6 7dae 7da9 7da1 7dc9 7f73 7fe2+2 7fe5 7fde 8024 805d
   805c 8189 8186 8183 8187 818d 818c 818b 8215 8497 84a4 84a1 849f 84ba 84ce 84c2 84ac 84ae 84ab
   84b9 84b4 84c1 84cd 84aa 849a 84b1 84d0 849d 84a7 84bb 84a2 8494 84c7 84cc 849b 84a9 84af 84a8
   84d6 8498 84b6 84cf 84a0 84d7 84d4 84d2 84db 84b0 8491 8661 8733 8723 8728 876b 8740 872e 871e
   8721 8719 871b 8743 872c 8741 873e 8746 8720 8732 872a 872d 873c 8712 873a 8731 8735 8742 8726+2
   8738 8724 871a 8730 8711 88f7 88e7 88f1+2 88fa 88fe 88ee 88fc 88f6 88fb 88f0 88ec 88eb 899d 89a1
   899f 899e 89e9 89eb 89e8 8aab 8a99 8a8b 8a92 8a8f 8a96 8c3d 8c68+2 8cd5 8ccf 8cd7 8d96 8e09 8e02
   8dff 8e0d 8dfd 8e0a 8e03 8e07 8e06 8e05 8dfe 8e00 8e04 8f10+2 8f0e 8f0d 9123 911c 9120 9122 911f
   911d 911a 9124 9121 911b 917a 9172 9179 9173 92a5 92a4 9276 929b 927a 92a0 9294 92aa 928d 92a6
   929a 92ab 9279 9297 927f 92a3 92ee 928e 9282 9295 92a2 927d 9288 92a1 928a 9286 928c 9299 92a7
   927e 9287 92a9 929d 928b 922d 969e 96a1 96ff 9758 977d 977a 977e 9783 9780 9782 977b 9784 9781
   977f 97ce 97cd 9816 98ad+2 9902 9900 9907 999d 999c 99c3 99b9 99bb 99ba 99c2 99bd 99c7 9ab1 9ae3
   9ae7 9b3e+2 9b60+2 9b5f 9cf1+2 9cf5 9ea7 50ff 5103 5130 50f8 5106+2 50f6 50fe 510b+2 50fd 510a
   528b+2 52f1 52ef 5648 5642 564c 5635 5641 564a 5649 5646 5658 565a 5640 5633 563d 562c 563e 5638
   562a 563a 571a 58ab 589d 58b1 58a0 58a3 58af 58ac 58a5 58a1 58ff 5aff 5af4 5afd 5af7 5af6 5b03
   5af8 5b02 5af9 5b01 5b07 5b05 5b0f 5c67 5d99 5d97 5d9f 5d92 5da2 5d93 5d95 5da0 5d9c 5da1 5d9a
   5d9e 5e69 5e5d 5e60 5e5c 7df3 5edb 5ede 5ee1 5f49 5fb2 618b 6183 6179 61b1 61b0 61a2 6189 619b
   6193 61af 61ad 619f 6192 61aa 61a1 618d 6166 61b3 622d 646e 6470 6496 64a0 6485 6497 649c 648f
   648b 648a 648c 64a3 649f 6468 64b1 6498 6576 657a 6579 657b 65b2+2 66b5 66b0 66a9 66b2 66b7 66aa
   66af 6a00 6a06 6a17 69e5 69f8 6a15 69f1 69e4 6a20 69ff 69ec 69e2 6a1b 6a1d 69fe 6a27 69f2 69ee
   6a14 69f7 69e7 6a40 6a08 69e6 69fb 6a0d 69fc 69eb 6a09 6a04 6a18 6a25 6a0f 69f6 6a26 6a07 69f4
   6a16 6b51 6ba5 6ba3 6ba2 6ba6 6c01 6c00 6bff 6c02 6f41 6f26 6f7e 6f87 6fc6 6f92 6f8d 6f89 6f8c
   6f62 6f4f 6f85 6f5a 6f96 6f76 6f6c 6f82 6f55 6f72 6f52 6f50 6f57 6f94 6f93 6f5d 6f00 6f61 6f6b
   6f7d 6f67 6f90 6f53 6f8b 6f69 6f7f 6f95 6f63 6f77 6f6a 6f7b 71b2 71af 719b 71b0 71a0 719a 71a9
   71b5 719d 71a5 719e 71a4 71a1 71aa 719c 71a7 71b3 7298 729a 7358 7352 735e+3 735d 735b 7361 735a
   7359 7362 7487 7489+2 7486 7481 747d 7485 7488 747c 7479 7508 7507 757e 7625 761e 7619 761d 761c
   7623 761a 7628 761b 769c+3 769b 778d 778f 7789 7788 78cd 78bb 78cf 78cc 78d1 78ce 78d4 78c8
   78c3+2 78c9 799a 79a1 79a0 799c 79a2 799b 6b76 7a39 7ab2 7ab4 7ab3 7bb7 7bcb 7bbe 7bac 7bce 7baf
   7bb9 7bca 7bb5 7cc5 7cc8 7ccc 7ccb 7df7 7ddb 7dea 7de7 7dd7 7de1 7e03 7dfa 7de6 7df6 7df1 7df0
   7dee 7ddf 7f76 7fac 7fb0 7fad 7fed 7feb 7fea 7fec 7fe6 7fe8 8064 8067 81a3 819f 819e 8195 81a2
   8199 8197 8216 824f 8253 8252 8250 824e 8251 8524 853b 850f 8500 8529 850e 8509 850d 851f 850a
   8527 851c 84fb 852b 84fa 8508 850c 84f4 852a 84f2 8515 84f7 84eb 84f3 84fc 8512 84ea 84e9 8516
   84fe 8528 851d 852e 8502 84fd 851e 84f6 8531 8526 84e7+2 84f0 84ef 84f9 8518 8520 8530 850b 8519
   852f 8662 8756 8763+2 8777 87e1 8773 8758 8754 875b 8752 8761 875a 8751 875e 876d 876a 8750 874e
   875f 875d 876f 876c 877a 876e 875c 8765 874f 877b 8775 8762 8767 8769 885a 8905 890c 8914 890b
   8917+3 8906 8916 8911 890e 8909 89a2 89a4 89a3 89ed 89f0 89ec 8acf 8ac6 8ab8 8ad3 8ad1 8ad4+2
   8abb 8ad7 8abe 8ac0 8ac5 8ad8 8ac3 8aba 8abd 8ad9 8c3e 8c4d 8c8f 8ce5 8cdf 8cd9 8ce8 8cda 8cdd
   8ce7 8da0 8d9c 8da1 8d9b 8e20 8e23 8e25 8e24 8e2e 8e15 8e1b 8e16 8e11 8e19 8e26+2 8e14 8e12 8e18
   8e13 8e1c 8e17 8e1a 8f2c 8f24 8f18 8f1a 8f20 8f23 8f16+2 9073 9070 906f 9067 906b 912f 912b
   9129+2 9132 9126 912e 9185+2 918a 9181+2 9184 9180 92d0 92c3+2 92c0 92d9 92b6 92cf 92f1 92df
   92d8 92e9 92d7 92dd 92cc 92ef 92c2 92e8 92ca 92c8 92ce 92e6 92cd 92d5 92c9 92e0 92de 92e7 92d1
   92d3 92b5 92e1 92c6 92b4 957c 95ac 95ab 95ae 95b0 96a4 96a2 96d3 9705 9708 9702 975a 978a 978e
   9788 97d0 97cf 981e 981d 9826 9829 9828 9820 981b 9827 98b2 9908 98fa 9911 9914 9916+2 9915 99dc
   99cd 99cf 99d3+2 99ce 99c9 99d6 99d8 99cb 99d7 99cc 9ab3 9aec 9aeb 9af3 9af2 9af1 9b46 9b43 9b67
   9b74 9b71 9b66 9b76 9b75 9b70 9b68 9b64 9b6c 9cfc 9cfa 9cfd 9cff 9cf7 9d07 9d00 9cf9 9cfb 9d08
   9d05 9d04 9e83 9ed3 9f0f+2 511c 5113 5117 511a 5111 51de 5334 53e1 5670 5660 566e 5673 5666 5663
   566d 5672 565e 5677 571c 571b 58c8 58bd 58c9 58bf 58ba 58c2 58bc 58c6 5b17 5b19 5b1b 5b21 5b14
   5b13 5b10 5b16 5b28 5b1a 5b20 5b1e 5bef 5dac 5db1 5da9 5da7 5db5 5db0 5dae 5daa 5da8 5db2 5dad
   5daf 5db4 5e67+2 5e66 5e6f 5ee9 5ee7 5ee6 5ee8 5ee5 5f4b 5fbc 619d 61a8 6196 61c5 61b4 61c6 61c1
   61cc 61ba 61bf 61b8 618c 64d7 64d6 64d0 64cf 64c9 64bd 6489 64c3 64db 64f3 64d9 6533 657f 657c
   65a2 66c8 66be 66c0 66ca+2 66cf 66bd 66bb 66ba 66cc 6723 6a34 6a66 6a49 6a67 6a32 6a68 6a3e 6a5d
   6a6d 6a76 6a5b 6a51 6a28 6a5a 6a3b 6a3f 6a41 6a6a 6a64 6a50 6a4f 6a54 6a6f 6a69 6a60 6a3c 6a5e
   6a56 6a55 6a4d+2 6a46 6b55 6b54 6b56 6ba7 6baa+2 6bc8 6bc7 6c04 6c03 6c06 6fad 6fcb 6fa3 6fc7
   6fbc 6fce 6fc8 6f5e 6fc4 6fbd 6f9e 6fca 6fa8 7004 6fa5 6fae 6fba 6fac 6faa 6fcf 6fbf 6fb8 6fa2
   6fc9 6fab 6fcd 6faf 6fb2 6fb0 71c5 71c2 71bf 71b8 71d6 71c0+2 71cb 71d4 71ca 71c7 71cf 71bd 71d8
   71bc 71c6 71da+2 729d+2 7369 7366+2 736c 7365 736b 736a 747f 749a 74a0 7494 7492 7495 74a1 750b
   7580 762f 762d 7631 763d 7633 763c 7635 7632 7630 76bb 76e6 779a 779d 77a1 779c 779b 77a2+2 7795
   7799 7797 78dd 78e9 78e5 78ea 78de 78e3 78db 78e1+2 78ed 78df+2 79a4 7a44 7a48 7a47 7ab6 7ab8
   7ab5 7ab1 7ab7 7bde 7be3 7be7 7bdd 7bd5 7be5 7bda 7be8 7bf9 7bd4 7bea 7be2 7bdc 7beb 7bd8 7bdf
   7cd2 7cd4 7cd7 7cd0+2 7e12 7e21 7e17 7e0c 7e1f+2 7e13 7e0e 7e1c 7e15 7e1a 7e22 7e0b 7e0f 7e16
   7e0d 7e14 7e25 7e24 7f43 7f7b+2 7f7a 7fb1 7fef 802a 8029 806c 81b1 81a6 81ae 81b9 81b5 81ab 81b0
   81ac 81b4 81b2 81b7 81a7 81f2 8255+3 8556 8545 856b 854d 8553 8561 8558 8540 8546 8564 8541 8562
   8544 8551 8547 8563 853e 855b 8571 854e 856e 8575 8555 8567 8560 858c 8566 855d 8554 8565 856c
   8663 8665 8664 879b 878f 8797 8793 8792 8788 8781 8796 8798 8779 8787 87a3 8785 8790+2 879d 8784
   8794 879c 879a 8789 891e 8926 8930 892d+2 8927 8931 8922 8929 8923 892f 892c 891f 89f1 8ae0 8ae2
   8af2 8af4+2 8add 8b14 8ae4 8adf 8af0 8ac8 8ade 8ae1 8ae8 8aff 8aef 8afb 8c91+2 8c90 8cf5 8cee
   8cf1 8cf0 8cf3 8d6c 8d6e 8da5 8da7 8e33 8e3e 8e38 8e40 8e45 8e36 8e3c+2 8e41 8e30 8e3f 8ebd 8f36
   8f2e 8f35 8f32 8f39 8f37 8f34 9076 9079 907b 9086 90fa 9133 9135+2 9193 9190+2 918d 918f 9327
   931e 9308 931f 9306 930f 937a 9338 933c 931b 9323 9312 9301 9346 932d 930e 930d 92cb 931d 92fa
   9325 9313 92f9 92f7 9334 9302 9324 92ff 9329 9339 9335 932a 9314 930c 930b 92fe 9309 9300 92fb
   9316 95bc 95cd 95be 95b9+2 95b6 95bf 95b5 95bd 96a9 96d4 970b 9712 9710 9799 9797 9794 97f0 97f8
   9835 982f 9832 9924 991f 9927 9929 999e 99ee 99ec 99e5 99e4 99f0 99e3 99ea 99e9 99e7 9ab9 9abf
   9ab4 9abb 9af6 9afa 9af9 9af7 9b33 9b80 9b85 9b87 9b7c 9b7e 9b7b 9b82 9b93 9b92 9b90 9b7a 9b95
   9b7d 9b88 9d25 9d17 9d20 9d1e 9d14 9d29 9d1d 9d18 9d22 9d10 9d19 9d1f 9e88 9e86+2 9eae 9ead
   9ed5+2 9efa 9f12 9f3d 5126 5125 5122 5124 5120 5129 52f4 5693 568c+2 5686 5684 5683 567e 5682
   567f 5681 58d6 58d4 58cf 58d2 5b2d 5b25 5b32 5b23 5b2c 5b27 5b26 5b2f 5b2e 5b7b 5bf1+2 5db7 5e6c
   5e6a 5fbe 5fbb 61c3 61b5 61bc 61e7 61e0 61e5 61e4 61e8 61de 64ef 64e9 64e3 64eb 64e4 64e8 6581
   6580 65b6 65da 66d2 6a8d 6a96 6a81 6aa5 6a89 6a9f 6a9b 6aa1 6a9e 6a87 6a93 6a8e 6a95 6a83 6aa8
   6aa4 6a91 6a7f 6aa6 6a9a 6a85 6a8c 6a92 6b5b 6bad 6c09 6fcc 6fa9 6ff4 6fd4 6fe3 6fdc 6fed 6fe7
   6fe6 6fde 6ff2 6fdd 6fe2 6fe8 71e1 71f1 71e8 71f2 71e4 71f0 71e2 7373 736e+2 7497 74b2 74ab 7490
   74aa 74ad 74b1 74a5 74af 7510+3 750f 7584 7643 7648+2 7647 76a4 76e9 77b5 77ab 77b2 77b7 77b6
   77b4 77b1 77a8 77f0 78f3 78fd 7902 78fb+2 78f2 7905 78f9 78fe 7904 79ab 79a8 7a5c 7a5b 7a56 7a58
   7a54 7a5a 7abe 7ac0+2 7c05 7c0f 7bf2 7c00 7bff 7bfb 7c0e 7bf4 7c0b 7bf3 7c02 7c09 7c03 7c01 7bf8
   7bfd 7c06 7bf0+2 7c10 7c0a 7ce8 7e2d 7e3c 7e42 7e33 9848 7e38 7e2a 7e49 7e40 7e47 7e29 7e4c 7e30
   7e3b 7e36 7e44 7e3a 7f45 7f7f 7f7e 7f7d 7ff4 7ff2 802c 81bb 81c4 81cc 81ca 81c5 81c7 81bc 81e9
   825b 825a 825c 8583 8580 858f 85a7 8595 85a0 858b 85a3 857b 85a4 859a 859e 8577 857c 8589 85a1
   857a 8578 8557 858e 8596 8586 858d 8599 859d 8581 85a2 8582 8588 8585 8579 8576 8598 8590 859f
   8668 87be 87aa 87ad 87c5 87b0 87ac 87b9 87b5 87bc 87ae 87c9 87c3 87c2 87cc 87b7 87af 87c4 87ca
   87b4 87b6 87bf 87b8 87bd 87de 87b2 8935 8933 893c 893e 8941 8952 8937 8942 89ad 89af 89ae 89f2+2
   8b1e 8b18 8b16 8b11 8b05 8b0b 8b22 8b0f 8b12 8b15 8b07 8b0d 8b08 8b06 8b1c 8b13 8b1a 8c4f 8c70
   8c72 8c71 8c6f 8c95 8c94 8cf9 8d6f 8e4e 8e4d 8e53 8e50 8e4c 8e47 8f43 8f40 9085 907e 9138 919a
   91a2 919b 9199 919f 91a1 919d 91a0 93a1 9383 93af 9364 9356 9347 937c 9358 935c 9376 9349 9350+2
   9360 936d 938f 934c 936a 9379 9357 9355 9352 934f 9371 9377 937b 9361 935e 9363 9367 9380 934e
   9359 95c7 95c0 95c9 95c3 95c5 95b7 96ae 96b0 96ac 9720 971f 9718 971d 9719 979a 97a1 979c 979e
   979d 97d5 97d4 97f1 9841 9844 984a 9849 9845 9843 9925 992b+2 992a 9933 9932 992f 992d 9931 9930
   9998 99a3 99a1 9a02 99fa 99f4 99f7 99f9 99f8 99f6 99fb 99fd+2 99fc 9a03 9abe 9afe 9afd 9b01 9afc
   9b48 9b9a 9ba8 9b9e 9b9b 9ba6 9ba1 9ba5 9ba4 9b86 9ba2 9ba0 9baf 9d33 9d41 9d67 9d36 9d2e+2 9d31
   9d38 9d30 9d45 9d42+2 9d3e 9d37 9d40 9d3d 7ff5 9d2d 9e8a 9e89 9e8d 9eb0 9ec8 9eda 9efb 9eff 9f24
   9f23 9f22 9f54 9fa0 5131 512d+2 5698 569c 5697 569a 569d 5699 5970 5b3c 5c69+2 5dc0 5e6d+2 61d8
   61df 61ed+2 61f1 61ea 61f0 61eb 61d6 61e9 64ff 6504 64fd 64f8 6501 6503 64fc 6594 65db 66da+2
   66d8 6ac5 6ab9 6abd 6ae1 6ac6 6aba 6ab6+2 6ac7 6ab4 6aad 6b5e 6bc9 6c0b 7007 700c+2 7001 7005
   7014 700e 6fff+2 6ffb 7026 6ffc 6ff7 700a 7201 71ff 71f9 7203 71fd 7376 74b8 74c0 74b5 74c1 74be
   74b6 74bb 74c2 7514 7513 765c 7664 7659 7650 7653 7657 765a 76a6 76bd 76ec 77c2 77ba 78ff 790c
   7913+2 7909 7910 7912 7911 79ad 79ac 7a5f 7c1c 7c29 7c19 7c20 7c1f 7c2d 7c1d 7c26 7c28 7c22 7c25
   7c30 7e5c 7e50 7e56 7e63 7e58 7e62 7e5f 7e51 7e60 7e57 7e53 7fb5 7fb3 7ff7+2 8075 81d1+2 81d0
   825f 825e 85b4 85c6 85c0 85c3 85c2 85b3 85b5 85bd 85c7 85c4 85bf 85cb 85ce 85c8 85c5 85b1 85b6
   85d2 8624 85b8 85b7 85be 8669 87e7 87e6 87e2 87db 87eb 87ea 87e5 87df 87f3 87e4 87d4 87dc 87d3
   87ed 87d8 87e3 87a4 87d7 87d9 8801 87f4 87e8 87dd 8953 894b 894f 894c 8946 8950+2 8949 8b2a 8b27
   8b23 8b33 8b30 8b35 8b47 8b2f 8b3c 8b3e 8b31 8b25 8b37 8b26 8b36 8b2e 8b24 8b3b 8b3d 8b3a 8c42
   8c75 8c99 8c98 8c97 8cfe 8d04 8d02 8d00 8e5c 8e62 8e60 8e57 8e56 8e5e 8e65 8e67 8e5b 8e5a 8e61
   8e5d 8e69 8e54 8f46+3 8f4b 9128 913a+2 913e 91a8 91a5 91a7 91af 91aa 93b5 938c 9392 93b7 939b
   939d 9389 93a7 938e 93aa 939e 93a6 9395 9388 9399 939f 938d 93b1 9391 93b2 93a4 93a8 93b4 93a3
   93a5 95d2+2 95d1 96b3 96d7 96da 5dc2 96df 96d8 96dd 9723 9722 9725 97ac 97ae 97a8 97ab 97a4 97aa
   97a2 97a5 97d7 97d9 97d6 97d8 97fa 9850+3 98b8 9941 993c 993a 9a0f 9a0b 9a09 9a0d 9a04 9a11 9a0a
   9a05 9a07 9a06 9ac0 9adc 9b08 9b04+2 9b29 9b35 9b4a 9b4c 9b4b 9bc7 9bc6 9bc3 9bbf 9bc1 9bb5 9bb8
   9bd3 9bb6 9bc4 9bb9 9bbd 9d5c 9d53 9d4f 9d4a 9d5b 9d4b 9d59 9d56 9d4c 9d57 9d52 9d54 9d5f 9d58
   9d5a 9e8e 9e8c 9edf 9f01 9f00 9f16 9f25 9f2b 9f2a 9f29 9f28 9f4c 9f55 5134+2 5296 52f7 53b4 56ab
   56ad 56a6+2 56aa 56ac 58da 58dd 58db 5912 5b3d+3 5dc3 5e70 5fbf 61fb 6507 6510 650d 6509 650c
   650e 6584 65de 65dd 66de 6ae7 6ae0 6acc 6ad1 6ad9 6acb 6adf 6adc 6ad0 6aeb 6acf 6acd 6ade 6b60
   6bb0 6c0c 7019 7027 7020 7016 702b 7021+3 7029 7017 7024 701c 702a 720c 720a 7207 7202 7205
   72a5+2 72a4 72a3 72a1 74cb 74c5 74b7 74c3 7516 7660 77c9+2 77c4 77f1 791d 791b 7921 791c 7917
   791e 79b0 7a67+2 7c33 7c3c 7c39 7c2c 7c3b 7cec 7cea 7e76 7e75 7e78 7e70 7e77 7e6f 7e7a 7e72 7e74
   7e68 7f4b 7f4a 7f83 7f86 7fb7 7ffd+2 8078 81d7 81d5 8264 8261 8263 85eb 85f1 85ed 85d9 85e1 85e8
   85da 85d7 85ec 85f2 85f8 85d8 85df 85e3 85dc 85d1 85f0 85e6 85ef 85de 85e2 8800 87fa 8803 87f6+2
   8809 880c 880b 8806 87fc 8808 87ff 880a 8802 8962 895a+2 8957 8961 895c 8958 895d 8959 8988 89b7
   89b6 89f6 8b50 8b48 8b4a 8b40 8b53 8b56 8b54 8b4b 8b55 8b51 8b42 8b52 8b57 8c43 8c77 8c76 8c9a
   8d06+2 8d09 8dac 8daa 8dad 8dab 8e6d 8e78 8e73 8e6a 8e6f 8e7b 8ec2 8f52 8f51 8f4f+2 8f53 8fb4
   9140 913f 91b0 91ad 93de 93c7 93cf 93c2 93da 93d0 93f9 93ec 93cc 93d9 93a9 93e6 93ca 93d4 93ee
   93e3 93d5 93c4 93ce 93c0 93d2 93e7 957d 95da+2 96e1 9729 972b+2 9728 9726 97b3 97b7 97b6 97dd+3
   985c 9859 985d 9857 98bf 98bd 98bb 98be 9948 9947 9943 99a6+2 9a1a 9a15 9a25 9a1d 9a24 9a1b 9a22
   9a20 9a27 9a23 9a1e 9a1c 9a14 9ac2 9b0b 9b0a 9b0e 9b0c 9b37 9bea+2 9be0 9bde 9be4 9be6 9be2 9bf0
   9bd4 9bd7 9bec 9bdc 9bd9 9be5 9bd5 9be1 9bda 9d77 9d81 9d8a 9d84 9d88 9d71 9d80 9d78 9d86 9d8b+2
   9d7d 9d6b 9d74+2 9d70 9d69 9d85 9d73 9d7b 9d82 9d6f 9d79 9d7f 9d87 9d68 9e94 9e91 9ec0 9efc 9f2d
   9f40+2 9f4d 9f56+3 5337 56b2 56b5 56b3 58e3 5b45 5dc6+2 5eee+2 5fc0+2 61f9 6517 6516 6515 6513
   65df 66e8 66e3+2 6af3 6af0 6aea 6ae8 6af9 6af1 6aee+2 703c 7035 702f 7037 7034 7031 7042 7038
   703f 703a 7039 7040 703b 7033 7041 7213+2 72a8 737d 737c 74ba 76ab 76aa 76be 76ed 77cc 77ce+2
   77cd 77f2 7925 7923 7927+2 7924 7929 79b2 7a6e 7a6c+2 7af7 7c49 7c48 7c4a 7c47 7c45 7cee 7e7b
   7e7e 7e81 7e80 7fba 7fff 8079 81db 81d9 820b 8268+2 8622 85ff 8601 85fe 861b 8600 85f6 8604 8609
   8605 860c 85fd 8819 8810+2 8817 8813 8816 8963 8966 89b9 89f7 8b60 8b6a 8b5d 8b68 8b63 8b65 8b67
   8b6d 8dae 8e86 8e88 8e84 8f59 8f56+2 8f55 8f58 8f5a 908d 9143 9141 91b7 91b5 91b2+2 940b 9413
   93fb 9420 940f 9414 93fe 9415 9410 9428 9419 940d 93f5 9400 93f7 9407 940e 9416 9412 93fa 9409
   93f8 940a 93ff 93fc 940c 93f6 9411 9406 95de 95e0 95df 972e+2 97b9 97bb 97fd+2 9860 9862+2 985f
   98c1+2 9950 994e 9959 994c 994b 9953 9a32 9a34 9a31 9a2c 9a2a 9a36 9a29 9a2e 9a38 9a2d 9ac7 9aca
   9ac6 9b10 9b12 9b11 9c0b 9c08 9bf7 9c05 9c12 9bf8 9c40 9c07 9c0e 9c06 9c17 9c14 9c09 9d9f 9d99
   9da4 9d9d 9d92 9d98 9d90 9d9b 9da0 9d94 9d9c 9daa 9d97 9da1 9d9a 9da2 9da8 9d9e 9da3 9dbf 9da9
   9d96 9da6+2 9e99 9e9b 9e9a 9ee5 9ee4 9ee7 9ee6 9f30 9f2e 9f5b 9f60 9f5e 9f5d 9f59 9f91 513a 5139
   5298 5297 56c3 56bd+2 5b48 5b47 5dcb 5dcf 5ef1 61fd 651b 6b02 6afc 6b03 6af8 6b00 7043+2 704a
   7048+2 7045+2 721d 721a 7219 737e 7517 766a 77d0 792d 7931 792f 7c54 7c53 7cf2 7e8a 7e87+2 7e8b
   7e86 7e8d 7f4d 7fbb 8030 81dd 8618 862a 8626 861f 8623 861c 8619 8627 862e 8621 8620 8629 861e
   8625 8829 881d 881b 8820 8824 881c 882b 884a 896d 8969 896e 896b 89fa 8b79 8b78 8b45 8b7a+2 8d10
   8d14 8daf 8e8e 8e8c 8f5e 8f5b 8f5d 9146 9144+2 91b9 943f 943b 9436 9429 943d 943c 9430 9439 942a
   9437 942c 9440 9431 95e5 95e4 95e3 9735 973a 97bf 97e1 9864 98c9 98c6 98c0 9958 9956 9a39 9a3d
   9a46 9a44 9a42 9a41 9a3a 9a3f 9acd 9b15 9b17+2 9b16 9b3a 9b52 9c2b 9c1d 9c1c 9c2c 9c23 9c28+2
   9c24 9c21 9db7 9db6 9dbc 9dc1 9dc7 9dca 9dcf 9dbe 9dc5 9dc3 9dbb 9db5 9dce 9db9+2 9dac 9dc8 9db1
   9dad 9dcc 9db3 9dcd 9db2 9e7a 9e9c 9eeb 9eee 9eed 9f1b 9f18 9f1a 9f31 9f4e 9f65 9f64 9f92 4eb9
   56c6 56c5 56cb 5971 5b4b+2 5dd5 5dd1 5ef2 6521 6520 6526 6522 6b0b 6b08+2 6c0d 7055+3 7052
   721e+2 72a9 737f 74d8 74d5 74d9 74d7 766d 76ad 7935 79b4 7a70+2 7c57 7c5c 7c59 7c5b 7c5a 7cf4
   7cf1 7e91 7f4f 7f87 81de 826b 8634+2 8633 862c 8632 8636 882c 8828 8826 882a 8825 8971 89bf 89be
   89fb 8b7e 8b84 8b82 8b86 8b85 8b7f 8d15 8e95 8e94 8e9a 8e92 8e90 8e96+2 8f60 8f62 9147 944c 9450
   944a+2 944f 9447 9445 9448+2 9446 973f 97e3 986a 9869 98cb 9954 995b 9a4e 9a53+2 9a4c 9a4f 9a48
   9a4a 9a49 9a52 9a50 9ad0 9b19 9b2b 9b3b 9b56 9b55 9c46 9c48 9c3f 9c44 9c39 9c33 9c41 9c3c 9c37
   9c34 9c32 9c3d 9c36 9ddb 9dd2 9dde 9dda 9dcb 9dd0 9ddc 9dd1 9ddf 9de9 9dd9 9dd8 9dd6 9df5 9dd5
   9ddd 9eb6 9ef0 9f35 9f33 9f32 9f42 9f6b 9f95 9fa2 513d 5299 58e8 58e7 5972 5b4d 5dd8 882f 5f4f
   6201 6203+2 6529 6525 6596 66eb 6b11+2 6b0f 6bca 705b 705a 7222 7382 7381 7383 7670 77d4 7c67
   7c66 7e95 826c 863a 8640 8639 863c 8631 863b 863e 8830 8832 882e 8833 8976 8974 8973 89fe 8b8c
   8b8e 8b8b 8b88 8c45 8d19 8e98 8f64 8f63 91bc 9462 9455 945d 9457 945e 97c4+2 9800 9a56 9a59
   9b1e+3 9c52 9c58 9c50 9c4a 9c4d 9c4b 9c55 9c59 9c4c 9c4e 9dfb 9df7 9def 9de3 9deb 9df8 9de4 9df6
   9de1 9dee 9de6 9df2 9df0 9de2 9dec 9df4 9df3 9de8 9ded 9ec2 9ed0 9ef2+2 9f06 9f1c 9f38 9f37 9f36
   9f43 9f4f 9f71 9f70 9f6e+2 56d3 56cd 5b4e 5c6d 652d 66ed+2 6b13 705f 7061 705d 7060 7223 74db
   74e5 77d5 7938 79b7 79b6 7c6a 7e97 7f89 826d 8643 8838 8837 8835 884b 8b94+2 8e9e+3 8e9d 91be
   91bd 91c2 946b 9468+2 96e5 9746 9743 9747 97c7 97e5 9a5e 9ad5 9b59 9c63 9c67 9c66 9c62 9c5e 9c60
   9e02 9dfe 9e07 9e03 9e06 9e05 9e00+2 9e09 9dff 9dfd 9e04 9ea0 9f1e 9f46 9f74+3 56d4 652e 65b8
   6b18+2 6b17 6b1a 7062 7226 72aa 77d8+2 7939 7c69 7c6b 7cf6 7e9a 7e98 7e9b 7e99 81e0+2 8646+3
   8979+2 897c 897b 89ff 8b98+2 8ea5 8ea4 8ea3 946e 946d 946f 9471 9473 9749 9872 995f 9c68 9c6e
   9c6d 9e0b 9e0d 9e10 9e0f 9e12 9e11 9ea1 9ef5 9f09 9f47 9f78 9f7b 9f7a 9f79 571e 7066 7c6f 883c
   8db2 8ea6 91c3 9474 9478 9476 9475 9a60 9c74 9c73 9c71 9c75 9e14 9e13 9ef6 9f0a 9fa4 7068 7065
   7cf7 866a 883e 883d 883f 8b9e 8c9c 8ea9 8ec9 974b 9873+2 98cc 9961 99ab 9a64 9a66+2 9b24 9e15
   9e17 9f48 6207 6b1e 7227 864c 8ea8 9482 9480+2 9a69 9a68 9b2e 9e19 7229 864b 8b9f 9483 9c79 9eb7
   7675 9a6b 9c7a 9e1d 7069+2 9ea4 9f7e 9f49 9f98 7881 92b9 88cf 58bb 6052 7ca7 5afa 2554 2566 2557
   2560 256c 2563 255a 2569 255d 2552 2564 2555 255e 256a 2561 2558 2567 255b 2553 2565 2556 255f
   256b 2562 2559 2568 255c 2551 2550 256d+2 2570 256f ffed 20547 92db 205df 23fc5 854c 42b5 73ef
   51b5 3649 24942 289e4 9344 219db 82ee 23cc8 783c 6744 62df 24933 289aa 202a0 26bb3 21305 4fab
   224ed 5008 26d29 27a84 23600 24ab1 22513 5029 2037e 5fa4 20380 20347 6edb 2041f 507d 5101 347a
   510e 986c 3743 8416 249a4 20487 5160 233b4 516a 20bff 220fc 202e5 22530 2058e 23233 21983 5b82
   877d 205b3 23c99 51b2 51b8 9d34 51c9 51cf 51d1 3cdc 51d3 24aa6 51b3 51e2 5342 51ed 83cd 693e
   2372d 5f7b 520b 5226 523c 52b5 5257 5294 52b9 52c5 7c15 8542 52e0 860d 26b13 5305 28ade 5549
   6ed9 23f80 20954 23fec 5333 5344 20be2 6ccb 21726 681b 73d5 604a 3eaa 38cc 216e8 71dd 44a2 536d
   5374 286ab 537e+2 21596 21613 77e6 5393 28a9b 53a0 53ab 53ae 73a7 25772 3f59 739c 53c1 53c5 6c49
   4e49 57fe 53d9 3aab 20b8f 53e0 23feb 22da3 53f6 20c77 5413 7079 552b 6657 6d5b 546d 26b53 20d74
   555d 548f 54a4 47a6 2170d 20edd 3db4 20d4d 289bc 22698 5547 4ced 542f 7417 5586 55a9 5605 218d7
   2403a 4552 24435 66b3 210b4 5637 66cd 2328a 66a4 66ad 564d 564f 78f1 56f1 9787 53fe 5700 56ef
   56ed 28b66 3623 2124f 5746 241a5 6c6e 708b 5742 36b1 26c7e 57e6 21416 5803 21454 24363 5826
   24bf5 585c 58aa 3561 58e0 58dc 2123c 58fb 5bff 5743 2a150 24278 93d3 35a1 591f 68a6 36c3 6e59
   2163e 5a24 5553 21692 8505 59c9 20d4e 26c81 26d2a 217dc 59d9 217fb 217b2 26da6 6d71 21828 216d5
   59f9 26e45 5aab 5a63 36e6 249a9 5a77 3708 5a96 7465 5ad3 26fa1 22554 3d85 21911 3732 216b8 5e83
   52d0 5b76 6588 5b7c 27a0e 4004 485d 20204 5bd5 6160 21a34 259cc 205a5 5bf3 5b9d 4d10 5c05 21b44
   5c13 73ce 5c14 21ca5 26b28 5c49 48dd 5c85 5ce9 5cef 5d8b 21df9 21e37 5d10 5d18 5d46 21ea4 5cba
   5dd7 82fc 382d 24901 22049 22173 8287 3836 3bc2 5e2e 6a8a 5e75 5e7a 244bc 20cd3 53a6 4eb7 5ed0
   53a8 21771 5e09 5ef4 28482 5ef9 5efb 38a0 5efc 683e 941b 5f0d 201c1 2f894 3ade 48ae 2133a 5f3a
   26888 223d0 5f58 22471 5f63 97bd 26e6e 5f72 9340 28a36 5fa7 5db6 3d5f 25250 21f6a 270f8 22668
   91d6 2029e 28a29 6031 6685 21877 3963 3dc7 3639 5790 227b4 7971 3e40 609e 60a4 60b3 24982 2498f
   27a53 74a4 50e1 5aa0 6164 8424 6142 2f8a6 26ed2 6181 51f4 20656 6187 5baa 23fb7 2285f 61d3 28b9d
   2995d 61d0 3932 22980 228c1 6023 615c 651e 638b 20118 62c5 21770 62d5 22e0d 636c 249df 3a17 6438
   63f8 2138e 217fc 6490 6f8a 22e36 9814 2408c 2571d 64e1 64e5 947b 3a66 643a 3a57 654d 6f16 24a28
   24a23 6585 656d 655f 2307e 65b5 24940 4b37 65d1 40d8 21829 65e0 65e3 5fdf 23400 6618 231f7+2
   6644 231a4+2 664b 20e75 6667 251e6 6673+2 21e3d 23231 285f4 231c8 25313 77c5 228f7 99a4 6702
   2439c 24a21 3b2b 69fa 237c2 675e 6767 6762 241cd 290ed 67d7 44e9 6822 6e50 923c 6801 233e6 26da0
   685d 2346f 69e1 6a0b 28adf 6973 68c3 235cd 6901 6900 3d32 3a01 2363c 3b80 67ac 6961 28a4a 42fc
   6936 6998 3ba1 203c9 8363 5090 69f9 23659 2212a 6a45 23703 6a9d 3bf3 67b1 6ac8 2919c 3c0d 6b1d
   20923 60de 6b35 6b74 227cd 6eb5 23adb 203b5 21958 3740 5421 23b5a 6be1 23efc 6bdc 6c37 2248b
   248f1 26b51 6c5a 8226 6c79 23dbc 44c5 23dbd 241a4 2490c 24900 23cc9 36e5 3ceb 20d32 9b83 231f9
   22491 7f8f 6837 26d25 26da1 26deb 6d96 6d5c 6e7c 6f04 2497f 24085 26e72 8533 26f74 51c7 6c9c
   6e1d 842e 28b21 6e2f 23e2f 7453 23f82 79cc 6e4f 5a91 2304b 6ff8 370d 6f9d 23e30 6efa 21497 2403d
   4555 93f0 6f44 6f5c 3d4e 6f74 29170 3d3b 6f9f 24144 6fd3 24091 24155 24039 23ff0 23fb4 2413f
   51df 24156+2 24140 261dd 704b 707e 70a7 7081 70cc 70d5+2 70df 4104 3de8 71b4 7196 24277 712b
   7145 5a88 714a 716e 5c9c 24365 714f 9362 242c1 712c 2445a 24a27 24a22 71ba 28be8 70bd 720e 9442
   7215 5911 9443 7224 9341 25605 722e 7240 24974 68bd 7255 7257 3e55 23044 680d 6f3d 7282 732a+2
   24823 2882b 48ed 28804 7328 732e 73cf 73aa 20c3a 26a2e 73c9 7449 241e2 216e7 24a24 6623 36c5
   249b7 2498d 249fb 73f7 7415 6903 24a26 7439 205c3 3ed7 745c 228ad 7460 28eb2 7447 73e4 7476 83b9
   746c 3730 7474 93f1 6a2c 7482 4953 24a8c 2415f 24a79 28b8f 5b46 28c03 2189e 74c8 21988 750e 74e9
   751e 28ed9 21a4b 5bd7 28eac 9385 754d 754a 7567 756e 24f82 3f04 24d13 758e 745d 759e 75b4 7602
   762c 7651 764f 766f 7676 263f5 7690 81ef 37f8 26911 2690e 76a1 76a5 76b7 76cc 26f9f 8462 2509d
   2517d 21e1c 771e 7726 7740 64af 25220 7758 232ac 77af 28964 28968 216c1 77f4 7809 21376 24a12
   68ca 78af 78c7 78d3 96a5 792e 255e0 78d7 7934 78b1 2760c 8fb8 8884 28b2b 26083 2261c 7986 8900
   6902 7980 25857 799d 27b39 793c 79a9 6e2a 27126 3ea8 79c6 2910d 79d4"

end Folio.Charset
