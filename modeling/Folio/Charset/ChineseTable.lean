/-!
# Folio.Charset.ChineseTable

Characters of the simplified Chinese encodings.
-/

namespace Folio.Charset

/-- Characters of two bytes, a row of 190 for each first byte.  The characters in the order
of their second bytes, hexadecimal: `a` a character, `a+n` a run of `n` characters from `a`
on. -/
def chineseRows : List String := [
  "4e02 4e04+3 4e0f 4e12 4e17 4e1f+3 4e23 4e26 4e29 4e2e+2 4e31 4e33 4e35 4e37 4e3c 4e40+3 4e44
   4e46 4e4a 4e51 4e55 4e57 4e5a+2 4e62+4 4e67+2 4e6a+6 4e72 4e74+a 4e7f+7 4e87 4e8a 4e90 4e96+2
   4e99 4e9c+3 4ea3 4eaa 4eaf+3 4eb4 4eb6+4 4ebc+3 4ec8 4ecc 4ecf+2 4ed2 4eda+3 4ee0 4ee2 4ee6+2
   4ee9 4eed+3 4ef1 4ef4 4ef8+3 4efc 4efe 4f00 4f02+7 4f0b+2 4f12+5 4f1c+2 4f21 4f23 4f28+2 4f2c+3
   4f31 4f33 4f35 4f37 4f39 4f3b 4f3e+5 4f44+2 4f47+6 4f52 4f54 4f56 4f61+2 4f66 4f68 4f6a+2 4f6d+2
   4f71+2 4f75 4f77+4 4f7d 4f80+3 4f85+3 4f8a 4f8c 4f8e 4f90 4f92+2 4f95+2 4f98+3 4f9c 4f9e+2
   4fa1+2",
  "4fa4 4fab 4fad 4fb0+5 4fb6+9 4fc0+3 4fc6+4 4fcb+3 4fd2+5 4fd9 4fdb 4fe0 4fe2 4fe4+2 4fe7 4feb+2
   4ff0 4ff2 4ff4+4 4ff9 4ffb+3 4fff+d 500e 5010+2 5013 5015+3 501b 501d+2 5020 5022+3 5027 502b
   502f+b 503b 503d 503f+4 5044+3 5049+3 504d 5050+5 5056+4 505b 505d+8 5066+6 506d+9 5078+3 507c+2
   5081+4 5086+2 5089+4 508e+15 50a4 50a6 50aa+2 50ad+5 50b3+7 50bc",
  "50bd+12 50d0+6 50d7+3 50db+b 50e8+4 50ef+4 50f4 50f6+5 50fc+a 5108+3 510c+6 5113+e 5122+1d 5142
   5147 514a 514c 514e+3 5152+2 5157+3 515b 515d+5 5163+2 5166+2 5169+2 516f 5172 517a 517e+2
   5183+2 5186+2 518a+2 518e+4 5193+2 5198 519a 519d+3 51a1 51a3 51a6+5 51ad+2 51b4 51b8+3 51be+2
   51c1+3 51c5 51c8 51ca 51cd+2 51d0 51d2+6",
  "51d8+3 51dc 51de+2 51e2+2 51e5+6 51ec 51ee 51f1+2 51f4 51f7 51fe 5204+2 5209 520b+2 520f+2
   5213+3 521c 521e+2 5221+3 5225+3 522a 522c 522f 5231+2 5234+2 523c 523e 5244+6 524b 524e+2
   5252+2 5255 5257+5 525d 525f+2 5262+3 5266 5268 526b+4 5270+2 5273+a 527e 5280 5283+5 5289+7
   5291+2 5294+7 529c 52a4+4 52ae+3 52b4+a 52c0+3 52c4+3 52c8 52ca 52cc+4 52d1 52d3+3 52d7 52d9+6
   52e0+4 52e5+b 52f1+8 52fb+3 5301+4 5307 5309+4 530e",
  "5311+4 5318 531b+2 531e+2 5322 5324+2 5327+3 532b+3 532f+a 533c+2 5340 5342 5344 5346 534b+3
   5350 5354 5358+2 535b 535d 5365 5368 536a 536c+2 5372 5376 5379 537b+4 5380+2 5383 5387+2 538a
   538e+7 5396+2 5399 539b+2 539e 53a0+2 53a4 53a7 53aa+4 53af+7 53b7+4 53bc+3 53c0 53c3+5 53ce+3
   53d2+2 53d5 53da 53dc+3 53e1+2 53e7 53f4 53fa 53fe+3 5402 5405 5407 540b 5414 5418+3 541c 5422
   5424+2 542a 5430 5433 5436+2 543a 543d 543f 5441+2 5444+2 5447 5449 544c+4 5451 545a 545d+5 5463
   5465 5467 5469+8 5474 5479+2 547e+2 5481 5483 5485 5487+4 548d 5491 5493 5497+2 549c 549e+4",
  "54a2 54a5 54ae 54b0 54b2 54b5+3 54b9+2 54bc 54be 54c3 54c5 54ca+2 54d6 54d8 54db 54e0+5 54eb+2
   54ef+3 54f4+6 54fb 54fe 5500 5502+4 5508 550a+5 5512+2 5515+6 551c+4 5521 5525+2 5528+2 552b
   552d 5532 5534+3 5538+4 553d 5540 5542 5545 5547+2 554b+5 5551+4 5557+5 555d+4 5562+2 5568+2
   556b 556f+6 5579+2 557d 557f 5585+2 558c+3 5590 5592+2 5595+3 559a+2 559e 55a0+7 55a8+9 55b2
   55b4 55b6 55b8 55ba 55bc 55bf+5 55c6+3 55ca+2 55ce+3 55d5 55d7+5 55de 55e0 55e2 55e7 55e9 55ed+2
   55f0+2 55f4 55f6 55f8+5 55ff 5602+4",
  "5606+2 560a+2 560d 5610+8 5619+2 561c+2 5620+3 5625+2 5628+4 562e+3 5633 5635 5637+2 563a 563c+3
   5640+c 564f+5 5655+2 565a+2 565d+5 5663 5665+3 566d+4 5672+4 5677+4 567d+8 5687+7 5690+3 5694+f
   56a4+b 56b0+7 56b8+4 56bd+d 56cb+9 56d5+2 56d8+2 56dc 56e3 56e5+6 56ec 56ee+2 56f2+2 56f6+3
   56fb+2 5700+3 5705 5707 570b+7",
  "5712+a 571d+2 5720+3 5724+4 572b 5731+2 5734+5 573c+2 573f 5741 5743+4 5748+2 574b 5752+5 5758+2
   5762+2 5765 5767 576c 576e 5770+3 5774+2 5778+3 577d+5 5787+4 578d+5 5794+7 579c+4 57a5 57a8
   57aa 57ac 57af+3 57b3 57b5+3 57b9+9 57c4+7 57cc+2 57d0+2 57d3 57d6+2 57db+2 57de 57e1+3 57e5+8
   57ee 57f0+4 57f5+3 57fb+2 57fe+2 5801 5803+3 5808+3 580c 580e+3 5812+3 5816+3 581a+4 581f 5822+2
   5825+5 582b+5 5831+4 5836+8",
  "583e+6 5845+7 584e+3 5852+2 5855+3 5859+5 585f+6 5866+5 586d+11 587f 5882 5884 5886+3 588a+8
   5894+5 589b+3 58a0+8 58aa+12 58bd+4 58c2+3 58c6+b 58d2+3 58d6+e 58e5+6 58ed 58ef 58f1+2 58f4+2
   58f7+2 58fa+8 5903 5905+2 5908+5 590e 5910+4 5917+2 591b 591d+2 5920+4 5926 5928 592c 5930
   5932+2 5935+2 593b",
  "593d+4 5943 5945+2 594a 594c+2 5950 5952+2 5959 595b+5 5961 5963+2 5966+d 5975 5977 597a+3
   597e+3 5985 5989 598b+2 598e+4 5994+2 5998 599a+4 599f+4 59a6+2 59ac+2 59b0+2 59b3+6 59ba 59bc+2
   59bf+7 59c7+3 59cc+4 59d5+2 59d9 59db 59de+5 59e4 59e6+2 59e9+3 59ed+c 59fa 59fc+3 5a00 5a02
   5a0a+2 5a0d+4 5a12 5a14+4 5a19+3 5a1d+2 5a21+2 5a24 5a26+3 5a2a+7 5a33 5a35 5a37+5 5a3d+3 5a41+5
   5a47+2 5a4b+a 5a56+4 5a5b+6",
  "5a61 5a63+4 5a68+2 5a6b+9 5a78+2 5a7b+4 5a80+12 5a93+7 5a9c+e 5aab+7 5ab4 5ab6+2 5ab9+5 5abf+2
   5ac3+6 5aca+2 5acd+5 5ad3 5ad5 5ad7 5ad9+3 5add+3 5ae2 5ae4+2 5ae7+2 5aea 5aec+5 5af2+17 5b0a+c
   5b18+1a 5b33 5b35+2 5b38+8 5b41+7",
  "5b48+8 5b52 5b56 5b5e 5b60+2 5b67+2 5b6b 5b6d+3 5b72 5b74 5b76+4 5b7b+2 5b7e+2 5b82 5b86 5b8a
   5b8d+2 5b90+3 5b94 5b96 5b9f 5ba7+3 5bac+4 5bb1+2 5bb7 5bba+3 5bc0+2 5bc3 5bc8+4 5bcd+3 5bd1
   5bd4+9 5be0 5be2+2 5be6+2 5be9+5 5bef 5bf1+7 5bfd+2 5c00 5c02+2 5c05 5c07+2 5c0b+4 5c10 5c12+2
   5c17 5c19 5c1b 5c1e+4 5c23 5c26 5c28+4 5c2d+4 5c32+2 5c35+3 5c43+2 5c46+2 5c4c+2 5c52+3 5c56+3
   5c5a+4 5c5f 5c62 5c64 5c67+7 5c70 5c72+7 5c7b+4 5c80 5c83+5 5c89+3 5c8e+2 5c92+2 5c95 5c9d+5
   5ca4+5",
  "5caa 5cae+3 5cb2 5cb4 5cb6 5cb9+4 5cbe 5cc0 5cc2+2 5cc5+6 5ccc+6 5cd3+6 5cda+7 5ce2+2 5ce7 5ce9
   5ceb+2 5cee+2 5cf1+a 5cfc+6 5d04+2 5d08+6 5d0f+5 5d15 5d17+4 5d1c+2 5d1f+5 5d25 5d28 5d2a+3
   5d2f+5 5d35+8 5d3f+8 5d48+2 5d4d+b 5d59+2 5d5c 5d5e+b 5d6a 5d6d+2 5d70+4 5d75+d 5d83+16 5d9a+3
   5d9e+3",
  "5da1+16 5db8+d 5dc6+7 5dce+d 5ddc 5ddf+2 5de3+2 5dea 5dec+2 5df0 5df5+2 5df8+5 5dff+2 5e04 5e07
   5e09+3 5e0d+2 5e12+2 5e17 5e1e+8 5e28+5 5e2f+2 5e32+5 5e39+2 5e3e+4 5e43 5e46+6 5e4d+7 5e56+5
   5e5c+2 5e5f+2 5e63+f 5e75 5e77 5e79 5e7e 5e81+3 5e85 5e88+2 5e8c+3 5e92 5e98 5e9b 5e9d 5ea1+4
   5ea8+5 5eae+5 5eb4 5eba+4 5ebf+7",
  "5ec6+3 5ecb+6 5ed4+2 5ed7+4 5edc+c 5ee9 5eeb+9 5ef5 5ef8+2 5efb+3 5f05+3 5f09 5f0c+3 5f10 5f12
   5f14 5f16 5f19+2 5f1c+3 5f21+4 5f28 5f2b+2 5f2e 5f30 5f32+7 5f3b 5f3d+3 5f41+f 5f51 5f54 5f59+4
   5f5e+3 5f63 5f65 5f67+2 5f6b 5f6e+2 5f72 5f74+3 5f78 5f7a 5f7d+3 5f83 5f86 5f8d+3 5f91 5f93+2
   5f96 5f9a+2 5f9d+4 5fa2+6 5fa9 5fab+2 5faf+6 5fb6 5fb8+4 5fbe+5 5fc7+2 5fca+2 5fce 5fd3+3 5fda+3
   5fde+2 5fe2+2 5fe5+2 5fe8+2 5fec 5fef+2 5ff2+3 5ff6+2 5ff9+2 5ffc 6007",
  "6008+2 600b+2 6010+2 6013 6017+2 601a 601e+2 6022+3 602c+3 6030+5 6036+5 603d+2 6040 6044+7 604c
   604e+2 6051 6053+2 6056+3 605b+2 605e+4 6065+2 606e 6071+2 6074+2 6077 607e 6080+3 6085+4 608a+2
   608e+4 6093 6095 6097+3 609c 609e 60a1+2 60a4+2 60a7 60a9+2 60ae 60b0 60b3 60b5+3 60b9+2 60bd+8
   60c7+3 60cc+5 60d2+3 60d6+2 60d9 60db 60de 60e1+5 60ea 60f1+2 60f5 60f7+2 60fb+5 6102+4 6107
   610a+3 6110+5 6116+4 611b+4 6121+2 6125 6128+3 612c+13 6140+7",
  "6147 6149 614b 614d 614f+2 6152+3 6156+7 615e+4 6163+4 6169+7 6171+4 6176 6178+13 618c+2 618f+5
   6195+8 619e+9 61aa+2 61ad+a 61b8+6 61bf+3 61c3+5 61c9 61cc+5 61d3 61d5+11 61e7+e 61f6+9 6200+6
   6207 6209 6213+2 6219 621c+3 6220 6223 6226+4 622b 622d 622f+4 6235+2 6238+5 6242 6244+3 624a",
  "624f+2 6255+3 6259+2 625c+7 6264+2 6268 6271+2 6274+2 6277+2 627a+2 627d 6281+3 6285+4 628b+6
   6294 6299 629c+3 62a3 62a6+2 62a9+2 62ad+4 62b2+3 62b6+3 62ba 62be 62c0+2 62c3 62cb 62cf 62d1
   62d5 62dd+2 62e0+2 62e4 62ea+2 62f0 62f2 62f5 62f8+4 6300 6303+4 630a+4 630f+2 6312+4 6317+3
   631c 6326+2 6329 632c+3 6330+2 6333+6 633b+2 633e+4 6344 6347+2 634a 6351+4 6356+8 6360 6364+3
   6368 636a+3 636f+2 6372+4 6378+2 637c+4 6381 6383+4 638b 638d 6391 6393+3 6397 6399+7 63a1 63a4
   63a6 63ab 63af 63b1+2 63b5+2 63b9 63bb 63bd 63bf+2",
  "63c1+3 63c5 63c7+2 63ca+3 63d1 63d3+3 63d7+7 63df 63e2 63e4+5 63eb+2 63ee+4 63f3 63f5 63f7
   63f9+4 63fe 6403+2 6406+5 640d+2 6411+2 6415+6 641d 641f 6422+4 6427+3 642b 642e+6 6435+5 643b+2
   643e 6440 6442+2 6449 644b+7 6453 6455+3 6459+5 645f+8 6468 646a+3 646e+a 647b+7 6483 6486
   6488+9 6493+2 6497+2 649a+4 649f+5 64a5+4 64aa+2 64af 64b1+4 64b6 64b9 64bb 64bd+3 64c1 64c3+2
   64c6+7 64cf 64d1 64d3+4 64d9+2",
  "64db+3 64df+3 64e3 64e5 64e7+19 6501+8 650a+8 6513+5 6519+c 6526+5 652c+2 6530+4 6537 653a
   653c+2 6540+5 6546+2 654a+2 654d+2 6550 6552+3 6557+2 655a 655c 655f+3 6564+2 6567+4 656d+3 6571
   6573 6575+2 6578+f 6588+3 658d+3 6592 6594+3 6598 659a 659d+2 65a0 65a2+2 65a6 65a8 65aa 65ac
   65ae 65b1+8 65ba+2 65be+3 65c2 65c7+4 65cd 65d0+2 65d3+3 65d8+8 65e1 65e3+2 65ea+2",
  "65f2+4 65f8+2 65fb+5 6601 6604+2 6607+3 660b 660d 6610+3 6616+3 661a+3 661e 6621+4 6626 6629+4
   662e 6630 6632+2 6637+5 663d 663f+2 6642 6644+7 664d+2 6650+2 6658+2 665b+4 6660 6662+2 6665
   6667 6669+5 6671+3 6675 6678+2 667b+3 667f+3 6683 6685+2 6688+4 668d+4 6692+4 6698+5 669e+9
   66a9+5 66af+5 66b5+4 66ba+4 66bf+1a 66da 66de+8 66e7+2 66ea+6 66f1 66f5+2 66f8 66fa+2 66fd
   6701+3",
  "6704+4 670c 670e+2 6711+3 6716 6718+3 671c 671e 6720+6 6727 6729 672e 6730 6732+2 6736+4 673b+2
   673e+2 6741 6744+2 6747 674a+2 674d 6752 6754+2 6757+5 675d 6762+3 6766+2 676b+2 676e 6771 6774
   6776 6778+4 677d 6780 6782+2 6785+2 6788 678a 678c+4 6791+4 6796 6799 679b 679f+3 67a4 67a6 67a9
   67ac 67ae 67b1+2 67b4 67b9+8 67c2 67c5+a 67d5+3 67db 67df 67e1 67e3+2 67e6+3 67ea+2 67ed+2 67f2
   67f5+8 67fe 6801+4 6806 680d 6810 6812 6814+2 6818+5 681e+3 6822+7 682b+7 6834+3 683a+2 683f
   6847 684b 684d 684f 6852 6856+6",
  "685c+4 686a 686c+8 6875 6878+9 6882 6884 6887+8 6890+3 6894+3 6898+a 68a3+3 68a9+4 68ae 68b1+2
   68b4 68b6+a 68c1 68c3+6 68ca 68cc 68ce+4 68d3+2 68d6+2 68d9 68db+5 68e1+2 68e4+a 68ef 68f2+3
   68f6+3 68fb 68fd+4 6902+3 6906+5 690c 690f 6911 6913+c 6921+3 6925+8 692e+2 6931+3 6935+4 693a+3
   693e 6940+2 6943+11 6955+2 6958+2 695b+2 695f",
  "6961+2 6964+2 6967+4 696c+2 696f+2 6972+5 697a+2 697d+3 6981 6983 6985 698a+3 698e+6 6996+2
   6999+2 699d+a 69a9+2 69ac 69ae+3 69b2+2 69b5+2 69b8+3 69bc+5 69c2+8 69cb 69cd 69cf 69d1+3 69d5+6
   69dc+3 69e1+c 69ee+4 69f3+a 69fe 6a00+a 6a0b+c 6a19+6 6a20 6a22+6 6a29 6a2b+4 6a30 6a32+3 6a36+7
   6a3f+5 6a45+2 6a48+8 6a51+7 6a5a",
  "6a5c+5 6a62+3 6a66+b 6a72+7 6a7a+2 6a7d+3 6a81+3 6a85+9 6a8f 6a92+5 6a98+8 6aa1+8 6aaa 6aad+73
   6b25+2 6b28+7",
  "6b2f+3 6b33+4 6b38 6b3b+3 6b3f+4 6b44+2 6b48 6b4a+2 6b4d+c 6b5a+8 6b68+2 6b6b+e 6b7a 6b7d+4 6b85
   6b88 6b8c 6b8e+4 6b94+2 6b97+3 6b9c+5 6ba2+8 6bab+8 6bb6 6bb8+7 6bc0 6bc3+2 6bc6+5 6bcc 6bce
   6bd0+2 6bd8 6bda 6bdc+5 6be2+8 6bec+3 6bf0+3 6bf4 6bf6+3 6bfa+3 6bfe+7 6c08+5 6c0e 6c12 6c17
   6c1c+3 6c20 6c23 6c25 6c2b+3 6c31 6c33 6c36+2 6c39+4 6c3e+2 6c43+3 6c48 6c4b+5 6c51+3 6c56 6c58",
  "6c59+2 6c62+2 6c65+3 6c6b+5 6c71 6c73 6c75 6c77+2 6c7a+3 6c7f+2 6c84 6c87 6c8a+2 6c8d+2 6c91+2
   6c95+4 6c9a 6c9c+3 6ca0 6ca2 6ca8 6cac 6caf+2 6cb4+4 6cba 6cc0+4 6cc6+3 6ccb 6ccd+3 6cd1+2
   6cd8+3 6cdc+2 6cdf 6ce4 6ce6+2 6ce9 6cec+2 6cf2 6cf4 6cf9 6cff+2 6d02+2 6d05+2 6d08+3 6d0d
   6d0f+3 6d13+4 6d18 6d1c+2 6d1f+6 6d26 6d28+2 6d2c+2 6d2f+2 6d34 6d36+3 6d3a 6d3f+2 6d42 6d44
   6d49 6d4c 6d50 6d55+4 6d5b 6d5d 6d5f 6d61+2 6d64+2 6d67+2 6d6b+3 6d70+4 6d75+2 6d79+3 6d7d+5
   6d83+2 6d86+2 6d8a+2 6d8d 6d8f+2 6d92 6d96+5 6d9c 6da2 6da5 6dac+2 6db0+2 6db3+2 6db6+2 6db9+6
   6dc1+3 6dc8+3",
  "6dcd+4 6dd2+4 6dd7 6dda+3 6ddf 6de2+2 6de5 6de7+4 6ded 6def+2 6df2 6df4+3 6df8 6dfa 6dfd+8
   6e06+4 6e0b 6e0f 6e12+2 6e15 6e18+2 6e1b+2 6e1e+2 6e22 6e26+3 6e2a 6e2c 6e2e 6e30+2 6e33 6e35+3
   6e39 6e3b+8 6e45+8 6e4f+4 6e55 6e57 6e59+2 6e5c+3 6e60+b 6e6c+2 6e6f+f 6e80+3 6e84 6e87+2 6e8a+5
   6e91+7 6e99+3 6e9d+2 6ea0+2 6ea3+2 6ea6 6ea8+2 6eab+4 6eb0 6eb3 6eb5 6eb8+2 6ebc 6ebe+3 6ec3+4
   6ec8+3 6ecc+3 6ed0 6ed2 6ed6 6ed8+2 6edb+3 6ee3 6ee7 6eea+6",
  "6ef0+4 6ef5+4 6efa+8 6f03+3 6f07+2 6f0a+5 6f10+3 6f16+a 6f21+3 6f25+4 6f2c 6f2e 6f30 6f32 6f34+2
   6f37+7 6f3f+7 6f48+3 6f4c 6f4e+a 6f59+3 6f5d 6f5f+3 6f63+3 6f67+6 6f6f+3 6f73 6f75+3 6f79 6f7b
   6f7d+7 6f85+3 6f8a+2 6f8f+d 6f9d+4 6fa2+5 6fa8+b 6fb4+2 6fb7+2 6fba+6 6fc1 6fc3+6 6fca+7 6fd3+b
   6fdf 6fe2+4",
  "6fe6+8 6ff0+21 7012+8 701c+7 7024+11 7036+3 703a+12 704d+2 7050+e 705f+c 706e 7071+4 7077 7079+3
   707d 7081+4 7086+3 708b+3 708f+3 7093 7097+2 709a+2 709e+d 70b0 70b2 70b4+3 70ba 70be+2 70c4+4
   70c9 70cb+d 70da",
  "70dc+3 70e0+4 70e5 70ea 70ee 70f0+7 70f8 70fa+3 70fe+b 710b+5 7111+2 7114 7117 711b+b 7127+8
   7132+4 7137+e 7146+4 714b 714d 714f+d 715d 715f+5 7165 7169+5 716f+3 7174+4 7179 717b+2 717e+6
   7185+5 718b+4 7190+4 7195+3 719a+5 71a1+7 71a9+3 71ad+6 71b4 71b6+3 71ba+9 71c4+a 71cf+5",
  "71d6+a 71e1+4 71e6 71e8+6 71ef+a 71fa+c 7207+16 721e+a 7229 722b 722d+3 7232+3 723a 723c 723e
   7240+7 7249+3 724e+4 7253+3 7257+2 725a 725c 725e 7260 7263+3 7268 726a+4 7270+2 7273+2 7276+3
   727b+3 7282+2 7285+5 728c 728e 7290+2 7293+c 72a0+c 72ae 72b1+3 72b5 72ba+7 72c5+3 72c9+4 72cf
   72d1 72d3+4 72d8 72da+2",
  "e4c6+60 3000+3 b7 2c9 2c7 a8 3003 3005 2014 ff5e 2016 2026 2018+2 201c+2 3014+2 3008+8 3016+2
   3010+2 b1 d7 f7 2236 2227+2 2211 220f 222a 2229 2208 2237 221a 22a5 2225 2220 2312 2299 222b
   222e 2261 224c 2248 223d 221d 2260 226e+2 2264+2 221e 2235 2234 2642 2640 b0 2032+2 2103 ff04 a4
   ffe0+2 2030 a7 2116 2606 2605 25cb 25cf 25ce 25c7 25c6 25a1 25a0 25b3 25b2 203b 2192 2190+2 2193
   3013",
  "e526+60 2170+a e766+6 2488+14 2474+14 2460+a 20ac e76d 3220+a e76e+2 2160+c e770+2",
  "e586+5f 3000 ff01+3 ffe5 ff05+59 ffe3",
  "e5e6+60 3041+53 e772+b",
  "e646+60 30a1+56 e77d+8",
  "e6a6+60 391+11 3a3+7 e785+8 3b1+11 3c3+7 fe10 fe12 fe11 fe13+4 fe35+2 fe39+2 fe3f+2 fe3d+2
   fe41+4 fe17+2 fe3b+2 fe37+2 fe31 fe19 fe33+2 e797+9",
  "e706+60 410+6 401 416+1a e7a0+f 430+6 451 436+1a e7af+d",
  "2ca+2 2d9 2013 2015 2025 2035 2105 2109 2196+4 2215 221f 2223 2252 2266+2 22bf 2550+24 2581+f
   2593+3 25bc+2 25e2+4 2609 2295 3012 301d+2 e7bc+b 101 e1 1ce e0 113 e9 11b e8 12b ed 1d0 ec 14d
   f3 1d2 f2 16b fa 1d4 f9 1d6 1d8 1da 1dc fc ea 251 1e3f 144 148 1f9 261 e7c9+4 3105+25 e7cd+15",
  "3021+9 32a3 338e+2 339c+3 33a1 33c4 33ce 33d1+2 33d5 fe30 ffe2 ffe4 e7e2 2121 3231 e7e3 2010
   e7e4+3 30fc 309b+2 30fd+2 3006 309d+2 fe49+a fe54+4 fe59+e fe68+4 303e 2ff0+c 3007 e7f4+d
   2500+4c e801+f",
  "72dc+2 72df 72e2+6 72ea+2 72f5+2 72f9 72fd+4 7302 7304+6 730b+3 730f+4 7314 7318+3 731f+2 7323+2
   7326+3 732d 732f+2 7332+2 7335+2 733a+4 7340+d 734e+2 7351 7353+4 7358+8 7361+b 736e 7370+2
   e000+5e",
  "7372+c 737f+5 7385+2 7388 738a 738c+2 738f+2 7392+4 7397+4 739c+3 73a0+2 73a3+6 73aa 73ac+2 73b1
   73b4+3 73b8+2 73bc+4 73c1 73c3+5 73cb+2 73ce 73d2+7 73da+4 73df 73e1+4 73e6 73e8 73ea+3 73ee+4
   73f3+5 e05e+5e",
  "73f8+b 7404 7407+2 740b+4 7411+9 741c+6 7423+2 7427 7429 742b 742d 742f 7431+2 7437+5 743d+4
   7442+13 7456 7458 745d 7460+d 746e+2 7471+5 7478+3 e0bc+5e",
  "747b+3 747f 7482 7484+3 7488+3 748c+2 748f 7491+b 749d 749f+8 74aa+10 74bb+17 74d3+9 74dd 74df
   74e1 74e5 74e7+7 74f0+3 e11a+5e",
  "74f3 74f5 74f8+7 7500+4 7505+8 750e 7510 7512 7514+4 751b 751d+2 7520+5 7526+2 752a 752e 7534
   7536 7539 753c+2 753f 7541+4 7546+2 7549+2 754d 7550+4 7555+4 755d+8 7567+3 756b+7 7573 7575+3
   757a+5 7580+3 7584+2 7587 e178+5e",
  "7588+3 758c+3 7590 7593 7595 7598 759b+2 759e 75a2 75a6+5 75ad 75b6+2 75ba+2 75bf+3 75c6 75cb+2
   75ce+4 75d3 75d7 75d9+2 75dc+2 75df+3 75e5 75e9 75ec+4 75f2+2 75f5+4 75fa+2 75fd+2 7602 7604
   7606+4 760b 760d+3 7611+4 7616 761a 761c+3 7621 7623 7627+2 762c 762e+2 7631+2 7636+2 7639+3
   763d 7641+2 7644 e1d6+5e",
  "7645+7 764e+6 7655 7657+5 765d 765f+4 7664+7 766c+3 7670+8 7679+2 767c 767f+3 7683 7685 7689+2
   768c+2 768f+2 7692 7694+2 7697+2 769a+a 76a5+9 76af+2 76b3 76b5+a 76c0+2 76c3 554a 963f 57c3
   6328 54ce 5509 54c0 7691 764c 853c 77ee 827e 788d 7231 9698 978d 6c28 5b89 4ffa 6309 6697 5cb8
   80fa 6848 80ae 6602 76ce 51f9 6556 71ac 7ff1 8884 50b2 5965 61ca 6fb3 82ad 634c 6252 53ed 5427
   7b06 516b 75a4 5df4 62d4 8dcb 9776 628a 8019 575d 9738 7f62 7238 767d 67cf 767e 6446 4f70 8d25
   62dc 7a17 6591 73ed 642c 6273 822c 9881 677f 7248 626e 62cc 4f34 74e3 534a 529e 7eca 90a6 5e2e
   6886 699c 8180 7ed1 68d2 78c5 868c 9551 508d 8c24 82de 80de 5305 8912 5265",
  "76c4 76c7 76c9 76cb+2 76d3 76d5 76d9+2 76dc+3 76e0+5 76e6+8 76f0 76f3 76f5+3 76fa+2 76fd 76ff+2
   7702+2 7705+2 770a 770c 770e+b 771b+4 7721 7723+3 7727 772a+3 772e 7730+5 7739 773b 773d+3 7742
   7744+3 7748+8 7752+8 775c 8584 96f9 4fdd 5821 9971 5b9d 62b1 62a5 66b4 8c79 9c8d 7206 676f 7891
   60b2 5351 5317 8f88 80cc 8d1d 94a1 500d 72c8 5907 60eb 7119 88ab 5954 82ef 672c 7b28 5d29 7ef7
   752d 6cf5 8e66 8ff8 903c 9f3b 6bd4 9119 7b14 5f7c 78a7 84d6 853d 6bd5 6bd9 6bd6 5e01 5e87 75f9
   95ed 655d 5f0a 5fc5 8f9f 58c1 81c2 907f 965b 97ad 8fb9 7f16 8d2c 6241 4fbf 53d8 535e 8fa8+2 8fab
   904d 6807 5f6a 8198 8868 9cd6 618b 522b 762a 5f6c 658c 6fd2 6ee8 5bbe 6448 5175 51b0 67c4 4e19
   79c9 997c 70b3",
  "775d+4 7764 7767 7769+2 776d+c 777a+3 7781+3 7786+6 778f+2 7793+c 77a1 77a3+2 77a6 77a8 77ab
   77ad+3 77b1+2 77b4 77b6+5 77bc 77be 77c0+d 77ce+9 77d8+3 77dd+5 77e4 75c5 5e76 73bb 83e0 64ad
   62e8 94b5 6ce2 535a 52c3 640f 94c2 7b94 4f2f 5e1b 8236 8116 818a 6e24 6cca 9a73 6355 535c 54fa
   8865 57e0 4e0d 5e03 6b65 7c3f 90e8 6016 64e6 731c 88c1 6750 624d 8d22 776c 8e29 91c7 5f69 83dc
   8521 9910 53c2 8695 6b8b 60ed 60e8 707f 82cd 8231 4ed3 6ca7 85cf 64cd 7cd9 69fd 66f9 8349 5395
   7b56 4fa7 518c 6d4b 5c42 8e6d 63d2 53c9 832c 8336 67e5 78b4 643d 5bdf 5c94 5dee 8be7 62c6 67f4
   8c7a 6400 63ba 8749 998b 8c17 7f20 94f2 4ea7 9610 98a4 660c 7316",
  "77e6 77e8 77ea 77ef+4 77f4+2 77f7 77f9+4 7803+6 780a+2 780e+3 7813 7815 7819 781b 781e 7820+3
   7824 7828 782a+2 782e+2 7831+3 7835+2 783d 783f 7841+4 7846 7848+4 784d 784f 7851 7853+2 7858+5
   785e+c 786f+8 7878+4 787d+7 573a 5c1d 5e38 957f 507f 80a0 5382 655e 7545 5531 5021 8d85 6284
   949e 671d 5632 6f6e 5de2 5435 7092 8f66 626f 64a4 63a3 5f7b 6f88 90f4 81e3 8fb0 5c18 6668 5ff1
   6c89 9648 8d81 886c 6491 79f0 57ce 6a59 6210 5448 4e58 7a0b 60e9 6f84 8bda 627f 901e 9a8b 79e4
   5403 75f4 6301 5319 6c60 8fdf 5f1b 9a70 803b 9f7f 4f88 5c3a 8d64 7fc5 65a5 70bd 5145 51b2 866b
   5d07 5ba0 62bd 916c 7574 8e0c 7a20 6101 7b79 4ec7 7ef8 7785 4e11 81ed 521d 51fa 6a71 53a8 8e87
   9504 96cf 6ec1 9664 695a",
  "7884+3 7888 788a+2 788f+2 7892 7894+3 7899 789d+2 78a0 78a2 78a4 78a6 78a8+8 78b5+4 78ba+4
   78bf+2 78c2+3 78c6+3 78cc+4 78d1+3 78d6+3 78da+e 78e9+3 78ed+5 78f3 78f5+2 78f8+2 78fb+6 7902+3
   7906+7 7840 50a8 77d7 6410 89e6 5904 63e3 5ddd 7a7f 693d 4f20 8239 5598 4e32 75ae 7a97 5e62 5e8a
   95ef 521b 5439 708a 6376 9524 5782 6625 693f 9187 5507 6df3 7eaf 8822 6233 7ef0 75b5 8328 78c1
   96cc 8f9e 6148 74f7 8bcd 6b64 523a 8d50 6b21 806a 8471 56f1 5306 4ece 4e1b 51d1 7c97 918b 7c07
   4fc3 8e7f 7be1 7a9c 6467 5d14 50ac 8106 7601 7cb9 6dec 7fe0 6751 5b58 5bf8 78cb 64ae 6413 63aa
   632b 9519 642d 8fbe 7b54 7629 6253 5927 5446 6b79 50a3 6234 5e26 6b86 4ee3 8d37 888b 5f85 902e",
  "790d+6 7914+a 791f+5 7925+f 7935+5 793d 793f 7942+4 7947 794a+9 7954+2 7958+2 7961 7963+2 7966
   7969+4 796e 7970+7 7979 797b+5 7982+2 7986+4 798b+4 7990+3 6020 803d 62c5 4e39 5355 90f8 63b8
   80c6 65e6 6c2e 4f46 60ee 6de1 8bde 5f39 86cb 5f53 6321 515a 8361 6863 5200 6363 8e48 5012 5c9b
   7977 5bfc 5230 7a3b 60bc 9053 76d7 5fb7 5f97 7684 8e6c 706f 767b 7b49 77aa 51f3 9093 5824 4f4e
   6ef4 8fea 654c 7b1b 72c4 6da4 7fdf 5ae1 62b5 5e95 5730 8482 7b2c 5e1d 5f1f 9012 7f14 98a0 6382
   6ec7 7898 70b9 5178 975b 57ab 7535 4f43 7538 5e97 60e6 5960 6dc0 6bbf 7889 53fc 96d5 51cb 5201
   6389 540a 9493 8c03 8dcc 7239 789f 8776 8fed 8c0d 53e0",
  "7993+7 799b+c 79a8+b 79b4+5 79bc 79bf 79c2 79c4+2 79c7+2 79ca 79cc 79ce+3 79d3+2 79d6+2 79d9+6
   79e0+3 79e5 79e8 79ea 79ec 79ee 79f1+7 79f9+2 79fc 79fe+2 7a01 7a04+2 7a07+4 7a0c 7a0f+5 7a15+2
   7a18+2 7a1b+2 4e01 76ef 53ee 9489 9876 9f0e 952d 5b9a 8ba2 4e22 4e1c 51ac 8463 61c2 52a8 680b
   4f97 606b 51bb 6d1e 515c 6296 6597 9661 8c46 9017 75d8 90fd 7763 6bd2 728a 72ec 8bfb 5835 7779
   8d4c 675c 9540 809a 5ea6 6e21 5992 7aef 77ed 953b 6bb5 65ad 7f0e 5806 5151 961f 5bf9 58a9 5428
   8e72 6566 987f 56e4 949d 76fe 9041 6387 54c6 591a 593a 579b 8eb2 6735 8dfa 8235 5241 60f0 5815
   86fe 5ce8 9e45 4fc4 989d 8bb9 5a25 6076 5384 627c 904f 9102 997f 6069 800c 513f 8033 5c14 9975
   6d31 4e8c",
  "7a1d 7a1f 7a21+2 7a24+f 7a34+3 7a38 7a3a 7a3e 7a40+6 7a47+a 7a52+5 7a58+18 7a71+3 7a75 7a7b+4
   7a82 7a85 7a87 7a89+4 7a8e+3 7a93+2 7a99+3 7a9e 7aa1+2 8d30 53d1 7f5a 7b4f 4f10 4e4f 9600 6cd5
   73d0 85e9 5e06 756a 7ffb 6a0a 77fe 9492 7e41 51e1 70e6 53cd 8fd4 8303 8d29 72af 996d 6cdb 574a
   82b3 65b9 80aa 623f 9632 59a8 4eff 8bbf 7eba 653e 83f2 975e 5561 98de 80a5 532a 8bfd 5420 80ba
   5e9f 6cb8 8d39 82ac 915a 5429 6c1b 5206 7eb7 575f 711a 6c7e 7c89 594b 4efd 5fff 6124 7caa 4e30
   5c01 67ab 8702 5cf0 950b 98ce 75af 70fd 9022 51af 7f1d 8bbd 5949 51e4 4f5b 5426 592b 6577 80a4
   5b75 6276 62c2 8f90 5e45 6c1f 7b26 4f0f 4fd8 670d",
  "7aa3+2 7aa7 7aa9+3 7aae+5 7ab4+b 7ac0+b 7acc+a 7ad7+2 7ada+4 7ae1+2 7ae4 7ae7+6 7aee 7af0+9
   7afb+2 7afe 7b00+3 7b05 7b07 7b09 7b0c+3 7b10 7b12+2 7b16+3 7b1a 7b1c+2 7b1f 7b21+3 7b27 7b29
   7b2d 6d6e 6daa 798f 88b1 5f17 752b 629a 8f85 4fef 91dc 65a7 812f 8151 5e9c 8150 8d74 526f 8986
   8d4b 590d 5085 4ed8 961c 7236 8179 8d1f 5bcc 8ba3 9644 5987 7f1a 5490 5676 560e 8be5 6539 6982
   9499 76d6 6e89 5e72 7518 6746 67d1 7aff 809d 8d76 611f 79c6 6562 8d63 5188 521a 94a2 7f38 809b
   7eb2 5c97 6e2f 6760 7bd9 768b 9ad8 818f 7f94 7cd5 641e 9550 7a3f 544a 54e5 6b4c 6401 6208 9e3d
   80f3 7599 5272 9769 845b 683c 86e4 9601 9694 94ec 4e2a 5404 7ed9 6839 8ddf 8015 66f4 5e9a 7fb9",
  "7b2f+2 7b32 7b34+4 7b39 7b3b 7b3d 7b3f+6 7b46 7b48 7b4a 7b4d+2 7b53 7b55 7b57 7b59 7b5c 7b5e+2
   7b61 7b63+b 7b6f+2 7b73+2 7b76 7b78 7b7a 7b7c+2 7b7f 7b81+4 7b86+7 7b8e+2 7b91+3 7b96 7b98+4
   7b9e+3 7ba3+3 7bae+3 7bb2+2 7bb5+3 7bb9+8 7bc2+3 57c2 803f 6897 5de5 653b 529f 606d 9f9a 4f9b
   8eac 516c 5bab 5f13 5de9 6c5e 62f1 8d21 5171 94a9 52fe 6c9f 82df 72d7 57a2 6784 8d2d 591f 8f9c
   83c7 5495 7b8d 4f30 6cbd 5b64 59d1 9f13 53e4 86ca 9aa8 8c37 80a1 6545 987e 56fa 96c7 522e 74dc
   5250 5be1 6302 8902 4e56 62d0 602a 68fa 5173 5b98 51a0 89c2 7ba1 9986 7f50 60ef 704c 8d2f 5149
   5e7f 901b 7470 89c4 572d 7845 5f52 9f9f 95fa 8f68 9b3c 8be1 7678 6842 67dc 8dea 8d35 523d 8f8a
   6eda 68cd 9505 90ed 56fd 679c 88f9 8fc7 54c8",
  "7bc5 7bc8+4 7bcd+4 7bd2 7bd4+5 7bdb+2 7bde+3 7be2+3 7be7+3 7beb+3 7bef+2 7bf2+5 7bf8+4 7bfd
   7bff+8 7c08+3 7c0d+2 7c10+6 7c17+8 7c20+6 7c28+2 7c2b+d 7c39+6 7c42 9ab8 5b69 6d77 6c26 4ea5
   5bb3 9a87 9163 61a8 90af 97e9 542b 6db5 5bd2 51fd 558a 7f55 7ff0 64bc 634d 65f1 61be 608d 710a
   6c57 6c49 592f 676d 822a 58d5 568e 8c6a 6beb 90dd 597d 8017 53f7 6d69 5475 559d 8377 83cf 6838
   79be 548c 4f55 5408 76d2 8c89 9602 6cb3 6db8 8d6b 8910 9e64 8d3a 563f 9ed1 75d5 5f88 72e0 6068
   54fc 4ea8 6a2a 8861 6052 8f70 54c4 70d8 8679 9e3f 6d2a 5b8f 5f18 7ea2 5589 4faf 7334 543c 539a
   5019 540e 547c 4e4e 5ffd 745a 58f6 846b 80e1 8774 72d0 7cca 6e56",
  "7c43+a 7c4e+25 7c75+6 7c7e+b 7c8a+7 7c93+2 7c96 7c99+3 7ca0+2 7ca3 7ca6+4 7cab+3 7caf+2 7cb4+5
   7cba+2 5f27 864e 552c 62a4 4e92 6caa 6237 82b1 54d7 534e 733e 6ed1 753b 5212 5316 8bdd 69d0 5f8a
   6000 6dee 574f 6b22 73af 6853 8fd8 7f13 6362 60a3 5524 75ea 8c62 7115 6da3 5ba6 5e7b 8352 614c
   9ec4 78fa 8757 7c27 7687 51f0 60f6 714c 6643 5e4c 604d 8c0e 7070 6325 8f89 5fbd 6062 86d4 56de
   6bc1 6094 6167 5349 60e0 6666 8d3f 79fd 4f1a 70e9 6c47 8bb3 8bf2 7ed8 8364 660f 5a5a 9b42 6d51
   6df7 8c41 6d3b 4f19 706b 83b7 6216 60d1 970d 8d27 7978 51fb 573e 57fa 673a 7578 7a3d 79ef 7b95",
  "7cbf+2 7cc2+3 7cc6 7cc9 7ccb 7cce+7 7cd8 7cda+2 7cdd+2 7ce1+7 7ce9+6 7cf0+8 7cf9+2 7cfc+e
   7d0b+15 7d21 7d23+4 7d28+3 7d2c+3 7d30+7 808c 9965 8ff9 6fc0 8ba5 9e21 59ec 7ee9 7f09 5409 6781
   68d8 8f91 7c4d 96c6 53ca 6025 75be 6c72 5373 5ac9 7ea7 6324 51e0 810a 5df1 84df 6280 5180 5b63
   4f0e 796d 5242 60b8 6d4e 5bc4 5bc2 8ba1 8bb0 65e2 5fcc 9645 5993 7ee7 7eaa 5609 67b7 5939 4f73
   5bb6 52a0 835a 988a 8d3e 7532 94be 5047 7a3c 4ef7 67b6 9a7e 5ac1 6b7c 76d1 575a 5c16 7b3a 95f4
   714e 517c 80a9 8270 5978 7f04 8327 68c0 67ec 78b1 7877 62e3 6361 7b80 4fed 526a 51cf 8350 69db
   9274 8df5 8d31 89c1 952e 7bad 4ef6",
  "7d37+37 7d6f+8 7d78+21 5065 8230 5251 996f 6e10 6e85 6da7 5efa 50f5 59dc 5c06 6d46 6c5f 7586
   848b 6868 5956 8bb2 5320 9171 964d 8549 6912 7901 7126 80f6 4ea4 90ca 6d47 9a84 5a07 56bc 6405
   94f0 77eb 4fa5 811a 72e1 89d2 997a 7f34 7ede 527f 6559 9175 8f7f 8f83 53eb 7a96 63ed 63a5 7686
   79f8 8857 9636 622a 52ab 8282 6854 6770 6377 776b 7aed 6d01 7ed3 89e3 59d0 6212 85c9 82a5 754c
   501f 4ecb 75a5 8beb 5c4a 5dfe 7b4b 65a4 91d1 4eca 6d25 895f 7d27 9526 4ec5 8c28 8fdb 9773 664b
   7981 8fd1 70ec 6d78",
  "7d99+d 7da7+7 7daf+4c 5c3d 52b2 8346 5162 830e 775b 6676 9cb8 4eac 60ca 7cbe 7cb3 7ecf 4e95 8b66
   666f 9888 9759 5883 656c 955c 5f84 75c9 9756 7adf 7ade 51c0 70af 7a98 63ea 7a76 7ea0 7396 97ed
   4e45 7078 4e5d 9152 53a9 6551 65e7 81fc 8205 548e 5c31 759a 97a0 62d8 72d9 75bd 5c45 9a79 83ca
   5c40 5480 77e9 4e3e 6cae 805a 62d2 636e 5de8 5177 8ddd 8e1e 952f 4ff1 53e5 60e7 70ac 5267 6350
   9e43 5a1f 5026 7737 5377 7ee2 6485 652b 6289 6398 5014 7235 89c9 51b3 8bc0 7edd 5747 83cc 94a7
   519b 541b 5cfb",
  "7dfb+40 7e3c+5 7e42+5 7e48+16 4fca 7ae3 6d5a 90e1 9a8f 5580 5496 5361 54af 5f00 63e9 6977 51ef
   6168 520a 582a 52d8 574e 780d 770b 5eb7 6177 7ce0 625b 6297 4ea2 7095 8003 62f7 70e4 9760 5777
   82db 67ef 68f5 78d5 9897 79d1 58f3 54b3 53ef 6e34 514b 523b 5ba2 8bfe 80af 5543 57a6 6073 5751
   542d 7a7a 6050 5b54 63a7 62a0 53e3 6263 5bc7 67af 54ed 7a9f 82e6 9177 5e93 88e4 5938 57ae 630e
   8de8 80ef 5757 7b77 4fa9 5feb 5bbd 6b3e 5321 7b50 72c2 6846 77ff 7736 65f7 51b5 4e8f 76d4 5cbf
   7aa5 8475 594e 9b41 5080",
  "7e5e+24 7e83+18 7e9c+3 7eae 7eb4 7ebb+2 7ed6 7ee4 7eec 7ef9 7f0a 7f10 7f1e 7f37 7f39 7f3b+7 7f43
   7f46+a 7f52+2 9988 6127 6e83 5764 6606 6346 56f0 62ec 6269 5ed3 9614 5783 62c9 5587 8721 814a
   8fa3 5566 83b1 6765 8d56 84dd 5a6a 680f 62e6 7bee 9611 5170 6f9c 8c30 63fd 89c8 61d2 7f06 70c2
   6ee5 7405 6994 72fc 5eca 90ce 6717 6d6a 635e 52b3 7262 8001 4f6c 59e5 916a 70d9 6d9d 52d2 4e50
   96f7 956d 857e 78ca 7d2f 5121 5792 64c2 808b 7c7b 6cea 68f1 695e 51b7 5398 68a8 7281 9ece 7bf1
   72f8 79bb 6f13 7406 674e 91cc 9ca4 793c 8389 8354 540f 6817 4e3d 5389 52b1 783e 5386 5229 5088
   4f8b 4fd0",
  "7f56 7f59 7f5b+4 7f60 7f63+5 7f6b+3 7f6f+2 7f73 7f75+4 7f7a+4 7f7f+2 7f82+8 7f8b 7f8d 7f8f+5
   7f95+5 7f9b+2 7fa0 7fa2+2 7fa5+2 7fa8+7 7fb1 7fb3+5 7fba+2 7fbe 7fc0 7fc2+3 7fc6+4 7fcb 7fcd
   7fcf+5 7fd6+2 7fd9+6 7fe2+2 75e2 7acb 7c92 6ca5 96b6 529b 7483 54e9 4fe9 8054 83b2 8fde 9570
   5ec9 601c 6d9f 5e18 655b 8138 94fe 604b 70bc 7ec3 7cae 51c9 6881 7cb1 826f 4e24 8f86 91cf 667e
   4eae 8c05 64a9 804a 50da 7597 71ce 5be5 8fbd 6f66 4e86 6482 9563 5ed6 6599 5217 88c2 70c8 52a3
   730e 7433 6797 78f7 9716 4e34 90bb 9cde 6dcb 51db 8d41 541d 62ce 73b2 83f1 96f6 9f84 94c3 4f36
   7f9a 51cc 7075 9675 5cad 9886 53e6 4ee4 6e9c 7409 69b4 786b 998f 7559 5218 7624 6d41 67f3 516d
   9f99 804b 5499 7b3c 7abf",
  "7fe4 7fe7+2 7fea+4 7fef 7ff2 7ff4+7 7ffd+3 8002 8007+4 800e+2 8011 8013 801a+2 801d+3 8021
   8023+2 802b+6 8032 8034 8039+2 803c 803e 8040+2 8044+2 8047+3 804e+4 8053 8055+3 8059 805b+e
   806b+6 8072+c 9686 5784 62e2 9647 697c 5a04 6402 7bd3 6f0f 964b 82a6 5362 9885 5e90 7089 63b3
   5364 864f 9c81 9e93 788c 9732 8def 8d42 9e7f 6f5e 7984 5f55 9646 622e 9a74 5415 94dd 4fa3 65c5
   5c65 5c61 7f15 8651 6c2f 5f8b 7387 6ee4 7eff 5ce6 631b 5b6a 6ee6 5375 4e71 63a0 7565 62a1 8f6e
   4f26 4ed1 6ca6 7eb6 8bba 841d 87ba 7f57 903b 9523 7ba9 9aa1 88f8 843d 6d1b 9a86 7edc 5988 9ebb
   739b 7801 8682 9a6c 9a82 561b 5417 57cb 4e70 9ea6 5356 8fc8 8109 7792 9992 86ee 6ee1 8513 66fc
   6162 6f2b",
  "807e 8081+2 8085 8088 808a 808d+6 8094+2 8097 8099 809e 80a3 80a6+3 80ac 80b0 80b3 80b5+2 80b8+2
   80bb 80c5 80c7+5 80cf+7 80d8 80df+2 80e2+2 80e6 80ee 80f5 80f7 80f9 80fb 80fe+4 8103+3 8107+2
   810b+2 8115 8117 8119 811b+3 811f+d 812d+2 8130 8133+3 8137 8139+5 813f 8c29 8292 832b 76f2 6c13
   5fd9 83bd 732b 8305 951a 6bdb 77db 94c6 536f 8302 5192 5e3d 8c8c 8d38 4e48 73ab 679a 6885 9176
   9709 7164 6ca1 7709 5a92 9541 6bcf 7f8e 6627 5bd0 59b9 5a9a 95e8 95f7 4eec 840c 8499 6aac 76df
   9530 731b 68a6 5b5f 772f 919a 9761 7cdc 8ff7 8c1c 5f25 7c73 79d8 89c5 6ccc 871c 5bc6 5e42 68c9
   7720 7ef5 5195 514d 52c9 5a29 7f05 9762 82d7 63cf 7784 85d0 79d2 6e3a 5e99 5999 8511 706d 6c11
   62bf 76bf 654f 60af 95fd 660e 879f 9e23 94ed 540d 547d 8c2c 6478",
  "8140+6 8147 8149 814d+3 8152 8156+3 815b+5 8161+4 8166 8168 816a+3 816f 8172+2 8175+4 8181
   8183+5 8189 818b+4 8190 8192+6 8199+2 819e+5 81a4+2 81a7 81a9 81ab+8 81b4+6 81bc+4 81c4+2 81c7+3
   81cb 81cd+7 6479 8611 6a21 819c 78e8 6469 9b54 62b9 672b 83ab 58a8 9ed8 6cab 6f20 5bde 964c 8c0b
   725f 67d0 62c7 7261 4ea9 59c6 6bcd 5893 66ae 5e55 52df 6155 6728 76ee 7766 7267 7a46 62ff 54ea
   5450 94a0 90a3 5a1c 7eb3 6c16 4e43 5976 8010 5948 5357 7537 96be 56ca 6320 8111 607c 95f9 6dd6
   5462 9981 5185 5ae9 80fd 59ae 9713 502a 6ce5 5c3c 62df 4f60 533f 817b 9006 6eba 852b 62c8 5e74
   78be 64b5 637b 5ff5 5a18 917f 9e1f 5c3f 634f 8042 5b7d 556e 954a 954d 6d85 60a8 67e0 72de 51dd
   5b81",
  "81d4+f 81e4+3 81e8+2 81eb 81ee+5 81f5+6 81fd 81ff 8203 8207+5 820e+2 8211 8213 8215+6 821d 8220
   8224+4 8229 822e 8232 823a 823c+2 823f+5 8245+2 8248 824a 824c+3 8250+8 8259 825b+4 8260+8 8269
   62e7 6cde 725b 626d 94ae 7ebd 8113 6d53 519c 5f04 5974 52aa 6012 5973 6696 8650 759f 632a 61e6
   7cef 8bfa 54e6 6b27 9e25 6bb4 85d5 5455 5076 6ca4 556a 8db4 722c 5e15 6015 7436 62cd 6392 724c
   5f98 6e43 6d3e 6500 6f58 76d8 78d0 76fc 7554 5224 53db 4e53 5e9e 65c1 802a 80d6 629b 5486 5228
   70ae 888d 8dd1 6ce1 5478 80da 57f9 88f4 8d54 966a 914d 4f69 6c9b 55b7 76c6 7830 62a8 70f9 6f8e
   5f6d 84ec 68da 787c 7bf7 81a8 670b 9e4f 6367 78b0 576f 7812 9739 6279 62ab 5288 7435 6bd7",
  "826a+4 8271 8275+4 827b+2 8280+2 8283 8285+3 8289 828c 8290 8293+4 829a+2 829e 82a0 82a2+2 82a7
   82b2 82b5+2 82ba+3 82bf+2 82c2+2 82c5+2 82c9 82d0 82d6 82d9+2 82dd 82e2 82e7+4 82ec+3 82f0
   82f2+2 82f5+2 82f8 82fa 82fc+5 830a+2 830d 8310 8312+2 8316 8318+2 831d+a 8329+2 832e 8330 8332
   8337 833b 833d 5564 813e 75b2 76ae 5339 75de 50fb 5c41 8b6c 7bc7 504f 7247 9a97 98d8 6f02 74e2
   7968 6487 77a5 62fc 9891 8d2b 54c1 8058 4e52 576a 82f9 840d 5e73 51ed 74f6 8bc4 5c4f 5761 6cfc
   9887 5a46 7834 9b44 8feb 7c95 5256 6251 94fa 4ec6 8386 8461 83e9 84b2 57d4 6734 5703 666e 6d66
   8c31 66dd 7011 671f 6b3a 6816 621a 59bb 4e03 51c4 6f06 67d2 6c8f 5176 68cb 5947 6b67 7566 5d0e
   8110 9f50 65d7 7948 7941 9a91 8d77 5c82 4e5e 4f01 542f 5951 780c 5668 6c14 8fc4 5f03 6c7d 6ce3
   8bab 6390",
  "833e+2 8341+2 8344+2 8348 834a+5 8353 8355+5 835d 8362 8370+7 8379+2 837e+7 8387+2 838a+4 838f+3
   8394+4 8399+2 839d 839f 83a1+7 83ac+4 83b5 83bb 83be+2 83c2+3 83c6 83c8+2 83cb 83cd+2 83d0+4
   83d5 83d7 83d9+3 83de 83e2+3 83e6+3 83eb+3 6070 6d3d 7275 6266 948e 94c5 5343 8fc1 7b7e 4edf
   8c26 4e7e 9ed4 94b1 94b3 524d 6f5c 9063 6d45 8c34 5811 5d4c 6b20 6b49 67aa 545b 8154 7f8c 5899
   8537 5f3a 62a2 6a47 9539 6572 6084 6865 77a7 4e54 4fa8 5de7 9798 64ac 7fd8 5ced 4fcf 7a8d 5207
   8304 4e14 602f 7a83 94a6 4fb5 4eb2 79e6 7434 52e4 82b9 64d2 79bd 5bdd 6c81 9752 8f7b 6c22 503e
   537f 6e05 64ce 6674 6c30 60c5 9877 8bf7 5e86 743c 7a77 79cb 4e18 90b1 7403 6c42 56da 914b 6cc5
   8d8b 533a 86c6 66f2 8eaf 5c48 9a71 6e20",
  "83ee+2 83f3+5 83fa+3 83fe+3 8402 8405 8407+4 8410 8412+6 8419+3 841e+6 8429+8 8432+6 8439+3
   843e+8 8447+a 8452+5 8458 845d+4 8462 8464+5 846a 846e+3 8472 8474 8477 8479 847b+2 53d6 5a36
   9f8b 8da3 53bb 5708 98a7 6743 919b 6cc9 5168 75ca 62f3 72ac 5238 529d 7f3a 7094 7638 5374 9e4a
   69b7 786e 96c0 88d9 7fa4 7136 71c3 5189 67d3 74e4 58e4 6518 56b7 8ba9 9976 6270 7ed5 60f9 70ed
   58ec 4ec1 4eba 5fcd 97e7 4efb 8ba4 5203 598a 7eab 6254 4ecd 65e5 620e 8338 84c9 8363 878d 7194
   6eb6 5bb9 7ed2 5197 63c9 67d4 8089 8339 8815 5112 5b7a 5982 8fb1 4e73 6c5d 5165 8925 8f6f 962e
   854a 745e 9510 95f0 6da6 82e5 5f31 6492 6d12 8428 816e 9cc3 585e 8d5b 4e09 53c1",
  "847d+5 8483+4 848a 848d 848f+8 8498 849a+2 849d+4 84a2+d 84b0+2 84b3 84b5+3 84bb+2 84be 84c0
   84c2+2 84c5+4 84cb+2 84ce+2 84d2 84d4+2 84d7+6 84de 84e1+2 84e4 84e7+5 84ed+3 84f1+b 84fd+2
   8500+3 4f1e 6563 6851 55d3 4e27 6414 9a9a 626b 5ac2 745f 8272 6da9 68ee 50e7 838e 7802 6740 5239
   6c99 7eb1 50bb 5565 715e 7b5b 6652 73ca 82eb 6749 5c71 5220 717d 886b 95ea 9655 64c5 8d61 81b3
   5584 6c55 6247 7f2e 5892 4f24 5546 8d4f 664c 4e0a 5c1a 88f3 68a2 634e 7a0d 70e7 828d 52fa 97f6
   5c11 54e8 90b5 7ecd 5962 8d4a 86c7 820c+2 8d66 6444 5c04 6151 6d89 793e 8bbe 7837 7533 547b 4f38
   8eab 6df1 5a20 7ec5 795e 6c88 5ba1 5a76 751a 80be 614e 6e17 58f0 751f 7525 7272 5347 7ef3",
  "8503+9 850d+4 8512 8514+3 8518+2 851b+4 8520 8522+9 852d+a 853e+5 8544+4 854b+b 8557+2 855a+4
   855f+5 8565+3 8569+9 8573 8575+4 857c+2 857f+3 7701 76db 5269 80dc 5723 5e08 5931 72ee 65bd 6e7f
   8bd7 5c38 8671 5341 77f3 62fe 65f6 4ec0 98df 8680 5b9e 8bc6 53f2 77e2 4f7f 5c4e 9a76 59cb 5f0f
   793a 58eb 4e16 67ff 4e8b 62ed 8a93 901d 52bf 662f 55dc 566c 9002 4ed5 4f8d 91ca 9970 6c0f 5e02
   6043 5ba4 89c6 8bd5 6536 624b 9996 5b88 5bff 6388 552e 53d7 7626 517d 852c 67a2 68b3 6b8a 6292
   8f93 53d4 8212 6dd1 758f 4e66 8d4e 5b70 719f 85af 6691 66d9 7f72 8700 9ecd 9f20 5c5e 672f 8ff0
   6811 675f 620d 7ad6 5885 5eb6 6570 6f31",
  "8582+2 8586 8588+7 8590+b 859d+7 85a5+3 85a9 85ab+3 85b1+6 85b8 85ba+7 85c2+7 85ca+5 85d1+2 85d4
   85d6+6 85dd+7 85e5+4 85ea+f 6055 5237 800d 6454 8870 7529 5e05 6813 62f4 971c 53cc 723d 8c01
   6c34 7761 7a0e 542e 77ac 987a 821c 8bf4 7855 6714 70c1 65af 6495 5636 601d 79c1 53f8 4e1d 6b7b
   8086 5bfa 55e3 56db 4f3a 4f3c 9972 5df3 677e 8038 6002 9882 9001 5b8b 8bbc 8bf5 641c 8258 64de
   55fd 82cf 9165 4fd7 7d20 901f 7c9f 50f3 5851 6eaf 5bbf 8bc9 8083 9178 849c 7b97 867d 968b 968f
   7ee5 9ad3 788e 5c81 7a57 9042 96a7 795f 5b59 635f 7b0b 84d1 68ad 5506 7f29 7410 7d22 9501 6240
   584c 4ed6 5b83 5979 5854",
  "85f9+2 85fc+3 8600+5 8606+b 8612+4 8617+10 8628 862a+e 8639+3 863d+10 8652+2 8655+5 865b+3
   865f+3 8663+8 736d 631e 8e4b 8e0f 80ce 82d4 62ac 53f0 6cf0 915e 592a 6001 6c70 574d 644a 8d2a
   762b 6ee9 575b 6a80 75f0 6f6d 8c2d 8c08 5766 6bef 8892 78b3 63a2 53f9 70ad 6c64 5858 642a 5802
   68e0 819b 5510 7cd6 5018 8eba 6dcc 8d9f 70eb 638f 6d9b 6ed4 7ee6 8404 6843 9003 6dd8 9676 8ba8
   5957 7279 85e4 817e 75bc 8a8a 68af 5254 8e22 9511 63d0 9898 8e44 557c 4f53 66ff 568f 60d5 6d95
   5243 5c49 5929 6dfb 586b 7530 751c 606c 8214 8146 6311 6761 8fe2 773a 8df3 8d34 94c1 5e16 5385
   542c 70c3",
  "866d 866f+2 8672+7 8683+7 868e+5 8694 8696+6 869e+5 86a5+2 86ab 86ad+2 86b2+2 86b7+3 86bb+5
   86c1+3 86c5 86c8 86cc+2 86d2+2 86d5+3 86da 86dc+2 86e0+4 86e5+4 86ea+3 86ef 86f5+3 86fa+4 86ff
   8701 8704+3 870b+2 870e+4 8714 8716 6c40 5ef7 505c 4ead 5ead 633a 8247 901a 6850 916e 77b3 540c
   94dc 5f64 7ae5 6876 6345 7b52 7edf 75db 5077 6295 5934 900f 51f8 79c3 7a81 56fe 5f92 9014 6d82
   5c60 571f 5410 5154 6e4d 56e2 63a8 9893 817f 8715 892a 9000 541e 5c6f 81c0 62d6 6258 8131 9e35
   9640 9a6e 9a7c 692d 59a5 62d3 553e 6316 54c7 86d9 6d3c 5a03 74e6 889c 6b6a 5916 8c4c 5f2f 6e7e
   73a9 987d 4e38 70f7 5b8c 7897 633d 665a 7696 60cb 5b9b 5a49 4e07 8155 6c6a 738b 4ea1 6789 7f51
   5f80 65fa 671b 5fd8 5984 5a01",
  "8719 871b 871d 871f+2 8724 8726+3 872a+4 872f+2 8732+2 8735+2 8738+3 873c+2 8740+7 874a+2 874d
   874f+4 8754+3 8758 875a+6 8761+2 8766+8 876f 8771+3 8775 8777+4 877f+3 8784 8786+2 8789+2 878c
   878e+5 8794+3 8798+7 87a0+5 5dcd 5fae 5371 97e6 8fdd 6845 56f4 552f 60df 4e3a 6f4d 7ef4 82c7
   840e 59d4 4f1f 4f2a 5c3e 7eac 672a 851a 5473 754f 80c3 5582 9b4f 4f4d 6e2d 8c13 5c09 6170 536b
   761f 6e29 868a 6587 95fb 7eb9 543b 7a33 7d0a 95ee 55e1 7fc1 74ee 631d 8717 6da1 7a9d 6211 65a1
   5367 63e1 6c83 5deb 545c 94a8 4e4c 6c61 8bec 5c4b 65e0 829c 68a7 543e 5434 6bcb 6b66 4e94 6342
   5348 821e 4f0d 4fae 575e 620a 96fe 6664 7269 52ff 52a1 609f 8bef 6614 7199 6790 897f 7852 77fd
   6670 563b 5438 9521 727a",
  "87a5+3 87a9+2 87ae 87b0+3 87b4 87b6+4 87bb+2 87be+2 87c1+5 87c7+3 87cc+5 87d4+7 87dc+4 87e1+4
   87e6+4 87eb+3 87ef+a 87fa+4 87ff+4 8804+6 880b+8 8814 8817+4 881c+5 8823 7a00 606f 5e0c 6089
   819d 5915 60dc 7184 70ef 6eaa 6c50 7280 6a84 88ad 5e2d 4e60 5ab3 559c 94e3 6d17 7cfb 9699 620f
   7ec6 778e 867e 5323 971e 8f96 6687 5ce1 4fa0 72ed 4e0b 53a6 590f 5413 6380 9528 5148 4ed9 9c9c
   7ea4 54b8 8d24 8854 8237 95f2 6d8e 5f26 5acc 663e 9669 73b0 732e 53bf 817a 9985 7fa1 5baa 9677
   9650 7ebf 76f8 53a2 9576 9999 7bb1 8944 6e58 4e61 7fd4 7965 8be6 60f3 54cd 4eab 9879 5df7 6a61
   50cf 5411 8c61 8427 785d 9704 524a 54ee 56a3 9500 6d88 5bb5 6dc6 6653",
  "8824+e 8833+6 883a+2 883d+3 8841+3 8846+6 884e+6 8855+2 8858 885a+7 8866+2 886a 886d 886f 8871
   8873+4 8878+5 8880 8883 8886+2 8889+2 888c 888e+4 8893+3 8897+5 889d+5 88a3 88a5+6 5c0f 5b5d
   6821 8096 5578 7b11 6548 6954 4e9b 6b47 874e 978b 534f 631f 643a 90aa 659c 80c1 8c10 5199 68b0
   5378 87f9 61c8 6cc4 6cfb 8c22 5c51 85aa 82af 950c 6b23 8f9b 65b0 5ffb 5fc3 4fe1 8845 661f 8165
   7329 60fa 5174 5211 578b 5f62 90a2 884c 9192 5e78 674f 6027 59d3 5144 51f6 80f8 5308 6c79 96c4
   718a 4f11 4fee 7f9e 673d 55c5 9508 79c0 8896 7ee3 589f 620c 9700 865a 5618 987b 5f90 8bb8 84c4
   9157 53d9 65ed 5e8f 755c 6064 7d6e 5a7f 7eea 7eed 8f69 55a7 5ba3 60ac 65cb 7384",
  "88ac 88ae+3 88b2+5 88b8+4 88bd+4 88c3+2 88c7+2 88ca+4 88cf+3 88d3 88d6+2 88da+5 88e0+2 88e6+2
   88e9+7 88f2 88f5+3 88fa+2 88fd 88ff+3 8903+7 890b+5 8911 8914+5 891c+5 8922+3 8926+4 892c+4
   8931+3 8935 8937 9009 7663 7729 7eda 9774 859b 5b66 7a74 96ea 8840 52cb 718f 5faa 65ec 8be2 5bfb
   9a6f 5de1 6b89 6c5b 8bad 8baf 900a 8fc5 538b 62bc 9e26 9e2d 5440 4e2b 82bd 7259 869c 5d16 8859
   6daf 96c5 54d1 4e9a 8bb6 7109 54bd 9609 70df 6df9 76d0 4e25 7814 8712 5ca9 5ef6 8a00 989c 960e
   708e 6cbf 5944 63a9 773c 884d 6f14 8273 5830 71d5 538c 781a 96c1 5501 5f66 7130 5bb4 8c1a 9a8c
   6b83 592e 9e2f 79e7 6768 626c 4f6f 75a1 7f8a 6d0b 9633 6c27 4ef0 75d2 517b 6837 6f3e 9080 8170
   5996 7476",
  "8938+9 8942+2 8945+19 8960+6 8967+14 897c+3 8980 8982 8984+2 8987+1b 6447 5c27 9065 7a91 8c23
   59da 54ac 8200 836f 8981 8000 6930 564e 8036 7237 91ce 51b6 4e5f 9875 6396 4e1a 53f6 66f3 814b
   591c 6db2 4e00 58f9 533b 63d6 94f1 4f9d 4f0a 8863 9890 5937 9057 79fb 4eea 80f0 7591 6c82 5b9c
   59e8 5f5d 6905 8681 501a 5df2 4e59 77e3 4ee5 827a 6291 6613 9091 5c79 4ebf 5f79 81c6 9038 8084
   75ab 4ea6 88d4 610f 6bc5 5fc6 4e49 76ca 6ea2 8be3 8bae 8c0a 8bd1 5f02 7ffc 7fcc 7ece 8335 836b
   56e0 6bb7 97f3 9634 59fb 541f 94f6 6deb 5bc5 996e 5c39 5f15 9690",
  "89a2+1f 89c3 89cd 89d3+3 89d7+3 89db 89dd 89df+4 89e4 89e7+4 89ec+3 89f0+3 89f4+c 8a01+6 8a08+16
   5370 82f1 6a31 5a74 9e70 5e94 7f28 83b9 8424+2 8367 8747 8fce 8d62 76c8 5f71 9896 786c 6620 54df
   62e5 4f63 81c3 75c8 5eb8 96cd 8e0a 86f9 548f 6cf3 6d8c 6c38 607f 52c7 7528 5e7d 4f18 60a0 5fe7
   5c24 7531 90ae 94c0 72b9 6cb9 6e38 9149 6709 53cb 53f3 4f51 91c9 8bf1 53c8 5e7c 8fc2 6de4 4e8e
   76c2 6986 865e 611a 8206 4f59 4fde 903e 9c7c 6109 6e1d 6e14 9685 4e88 5a31 96e8 4e0e 5c7f 79b9
   5b87 8bed 7fbd 7389 57df 828b 90c1 5401 9047 55bb 5cea 5fa1 6108 6b32 72f1 80b2 8a89",
  "8a1e+20 8a3f+9 8a49+30 8a7a+7 6d74 5bd3 88d5 9884 8c6b 9a6d 9e33 6e0a 51a4 5143 57a3 8881 539f
   63f4 8f95 56ed 5458 5706 733f 6e90 7f18 8fdc 82d1 613f 6028 9662 66f0 7ea6 8d8a 8dc3 94a5 5cb3
   7ca4 6708 60a6 9605 8018 4e91 90e7 5300 9668 5141 8fd0 8574 915d 6655 97f5 5b55 531d 7838 6742
   683d 54c9 707e 5bb0 8f7d 518d 5728 54b1 6512 6682 8d5e 8d43 810f 846c 906d 7cdf 51ff 85fb 67a3
   65e9 6fa1 86a4 8e81 566a 9020 7682 7076 71e5 8d23 62e9 5219 6cfd 8d3c 600e 589e 618e 66fe 8d60
   624e 55b3 6e23 672d 8f67",
  "8a81+8 8a8b+8 8a94+50 94e1 95f8 7728 6805 69a8 548b 4e4d 70b8 8bc8 6458 658b 5b85 7a84 503a 5be8
   77bb 6be1 8a79 7c98 6cbe 76cf 65a9 8f97 5d2d 5c55 8638 6808 5360 6218 7ad9 6e5b 7efd 6a1f 7ae0
   5f70 6f33 5f20 638c 6da8 6756 4e08 5e10 8d26 4ed7 80c0 7634 969c 62db 662d 627e 6cbc 8d75 7167
   7f69 5146 8087 53ec 906e 6298 54f2 86f0 8f99 8005 9517 8517 8fd9 6d59 73cd 659f 771f 7504 7827
   81fb 8d1e 9488 4fa6 6795 75b9 8bca 9707 632f 9547 9635 84b8 6323 7741 5f81 72f0 4e89 6014 6574
   62ef 6b63 653f",
  "8ae4+23 8b08+1e 8b27+1f 5e27 75c7 90d1 8bc1 829d 679d 652f 5431 8718 77e5 80a2 8102 6c41 4e4b
   7ec7 804c 76f4 690d 6b96 6267 503c 4f84 5740 6307 6b62 8dbe 53ea 65e8 7eb8 5fd7 631a 63b7 81f3+2
   7f6e 5e1c 5cd9 5236 667a 79e9 7a1a 8d28 7099 75d4 6ede 6cbb 7a92 4e2d 76c5 5fe0 949f 8877 7ec8
   79cd 80bf 91cd 4ef2 4f17 821f 5468 5dde 6d32 8bcc 7ca5 8f74 8098 5e1a 5492 76b1 5b99 663c 9aa4
   73e0 682a 86db 6731 732a 8bf8 8bdb 9010 7af9 70db 716e 62c4 77a9 5631 4e3b 8457 67f1 52a9 86c0
   8d2e 94f8 7b51",
  "8b46+20 8b67+5 8b6d+33 8bac 8bb1 8bbb 8bc7 8bd0 8bea 8c09 8c1e 4f4f 6ce8 795d 9a7b 6293 722a
   62fd 4e13 7816 8f6c 64b0 8d5a 7bc6 6869 5e84 88c5 5986 649e 58ee 72b6 690e 9525 8ffd 8d58 5760
   7f00 8c06 51c6 6349 62d9 5353 684c 7422 8301 914c 5544 7740 707c 6d4a 5179 54a8 8d44 59ff 6ecb
   6dc4 5b5c 7d2b 4ed4 7c7d 6ed3 5b50 81ea 6e0d 5b57 9b03 68d5 8e2a 5b97 7efc 603b 7eb5 90b9 8d70
   594f 63cd 79df 8db3 5352 65cf 7956 8bc5 963b 7ec4 94bb 7e82 5634 9189 6700 7f6a 5c0a 9075 6628
   5de6 4f50 67de 505a 4f5c 5750 5ea7 e810+5",
  "8c38+9 8c42+4 8c48 8c4a+2 8c4d+8 8c56+4 8c5b+6 8c63+7 8c6c+7 8c74+4 8c7b+7 8c83+2 8c86+3 8c8b
   8c8d+7 8c95+3 8c99+15 4e8d 4e0c 5140 4e10 5eff 5345 4e15 4e98 4e1e 9b32 5b6c 5669 4e28 79ba 4e3f
   5315 4e47 592d 723b 536e 6c10 56df 80e4 9997 6bd3 777e 9f17 4e36 4e9f 9f10 4e5c 4e69 4e93 8288
   5b5b 556c 560f 4ec4 538d 539d 53a3 53a5 53ae 9765 8d5d 531a 53f5 5326 532e 533e 8d5c 5366 5363
   5202 5208 520e 522d 5233 523f+2 524c 525e 5261 525c 84af 527d 5282 5281 5290 5293 5182 7f54 4ebb
   4ec3 4ec9 4ec2 4ee8 4ee1 4eeb 4ede 4f1b 4ef3 4f22 4f64 4ef5 4f25 4f27 4f09 4f2b 4f5e 4f67 6538
   4f5a 4f5d",
  "8cae+60 4f5f 4f57 4f32 4f3d 4f76 4f74 4f91 4f89 4f83 4f8f 4f7e 4f7b 4faa 4f7c 4fac 4f94 4fe6
   4fe8 4fea 4fc5 4fda 4fe3 4fdc 4fd1 4fdf 4ff8 5029 504c 4ff3 502c 500f 502e 502d 4ffe 501c 500c
   5025 5028 507e 5043 5055 5048 504e 506c 507b 50a5 50a7 50a9 50ba 50d6 5106 50ed 50ec 50e6 50ee
   5107 510b 4edd 6c3d 4f58 4f65 4fce 9fa0 6c46 7c74 516e 5dfd 9ec9 9998 5181 5914 52f9 530d 8a07
   5310 51eb 5919 5155 4ea0 5156 4eb3 886e 88a4 4eb5 8114 88d2 7980 5b34 8803 7fb8 51ab 51b1 51bd
   51bc",
  "8d0e+f 8d20 8d51+2 8d57 8d5f 8d65 8d68+3 8d6c 8d6e+2 8d71+2 8d78+9 8d82+2 8d86+4 8d8c+5 8d92+2
   8d95+a 8da0+3 8da4+d 8db2 8db6+2 8db9 8dbb 8dbd 8dc0+3 8dc5 8dc7+4 8dcd 8dd0 8dd2+3 51c7 5196
   51a2 51a5 8ba0 8ba6+2 8baa 8bb4+2 8bb7 8bc2+2 8bcb 8bcf 8bce 8bd2+3 8bd6 8bd8+2 8bdc 8bdf+2 8be4
   8be8+2 8bee 8bf0 8bf3 8bf6 8bf9 8bfc 8bff+2 8c02 8c04 8c07 8c0c 8c0f 8c11+2 8c14+3 8c19 8c1b
   8c18 8c1d 8c1f+3 8c25 8c27 8c2a+2 8c2e+2 8c32+2 8c35+2 5369 537a 961d 9622 9621 9631 962a 963d
   963c 9642 9649 9654 965f 9667 966c 9672 9674 9688 968d 9697 96b0 9097 909b 909d 9099 90ac 90a1
   90b4 90b3 90b6 90ba",
  "8dd5 8dd8+2 8ddc 8de0+3 8de5+3 8de9 8ded+2 8df0+3 8df4 8df6 8dfc 8dfe+7 8e06+3 8e0b 8e0d+2
   8e10+4 8e15+8 8e20+2 8e24+5 8e2b 8e2d 8e30 8e32+3 8e36+3 8e3b+2 8e3e+2 8e43 8e45+2 8e4c+5 8e53+6
   8e5a+c 8e67+2 8e6a+2 8e6e 8e71 90b8 90b0 90cf 90c5 90be 90d0 90c4 90c7 90d3 90e6 90e2 90dc 90d7
   90db 90eb 90ef 90fe 9104 9122 911e 9123 9131 912f 9139 9143 9146 520d 5942 52a2 52ac+2 52be 54ff
   52d0 52d6 52f0 53df 71ee 77cd 5ef4 51f5 51fc 9b2f 53b6 5f01 755a 5def 574c 57a9 57a1 587e 58bc
   58c5 58d1 5729 572c 572a 5733 5739 572e+2 575c 573b 5742 5769 5785 576b 5786 577c 577b 5768 576d
   5776 5773 57ad 57a4 578c 57b2 57cf 57a7 57b4 5793 57a0 57d5 57d8 57da 57d9 57d2 57b8 57f4 57ef
   57f8 57e4 57dd",
  "8e73 8e75 8e77+5 8e7d+2 8e80 8e82+3 8e86 8e88+7 8e91+3 8e95+7 8e9d 8e9f+c 8ead+2 8eb0+2 8eb3+7
   8ebb+13 8ecf+16 580b 580d 57fd 57ed 5800 581e 5819 5844 5820 5865 586c 5881 5889 589a 5880 99a8
   9f19 61ff 8279 827d 827f 828f 828a 82a8 8284 828e 8291 8297 8299 82ab 82b8 82be 82b0 82c8 82ca
   82e3 8298 82b7 82ae 82cb+2 82c1 82a9 82b4 82a1 82aa 829f 82c4 82ce 82a4 82e1 8309 82f7 82e4 830f
   8307 82dc 82f4 82d2 82d8 830c 82fb 82d3 8311 831a 8306 8314+2 82e0 82d5 831c 8351 835b+2 8308
   8392 833c 8334 8331 839b 835e 832f 834f 8347 8343 835f 8340 8317 8360 832d 833a 8333 8366 8365",
  "8ee5+60 8368 831b 8369 836c 836a 836d+2 83b0 8378 83b3+2 83a0 83aa 8393 839c 8385 837c 83b6 83a9
   837d 83b8 837b 8398 839e 83a8 83ba 83bc 83c1 8401 83e5 83d8 5807 8418 840b 83dd 83fd 83d6 841c
   8438 8411 8406 83d4 83df 840f 8403 83f8+2 83ea 83c5 83c0 8426 83f0 83e1 845c 8451 845a 8459 8473
   8487+2 847a 8489 8478 843c 8446 8469 8476 848c 848e 8431 846d 84c1 84cd 84d0 84e6 84bd 84d3 84ca
   84bf 84ba 84e0 84a1 84b9 84b4 8497 84e5 84e3 850c 750d 8538 84f0 8539 851f 853a",
  "8f45+21 8f6a 8f80 8f8c 8f92 8f9d 8fa0+3 8fa4+4 8faa 8fac+4 8fb2+4 8fb7+2 8fba+3 8fbf+2 8fc3 8fc6
   8fc9+5 8fcf 8fd2 8fd6+2 8fda 8fe0+2 8fe3 8fe7 8fec 8fef 8ff1+2 8ff4+3 8ffa+3 8ffe+2 9007+2 900c
   900e 9013 9015 9018 8556 853b 84ff 84fc 8559 8548 8568 8564 855e 857a 77a2 8543 8572 857b 85a4
   85a8 8587 858f 8579 85ae 859c 8585 85b9 85b7 85b0 85d3 85c1 85dc 85ff 8627 8605 8629 8616 863c
   5efe 5f08 593c 5941 8037 5955 595a 5958 530f 5c22 5c25 5c2c 5c34 624c 626a 629f 62bb 62ca 62da
   62d7 62ee 6322 62f6 6339 634b 6343 63ad 63f6 6371 637a 638e 63b4 636d 63ac 638a 6369 63ae 63bc
   63f2 63f8 63e0 63ff 63c4 63de 63ce 6452 63c6 63be 6445 6441 640b 641b 6420 640c 6426 6421 645e
   6484 646d 6496",
  "9019 901c 9023+3 9027+6 9030+5 9037 9039+2 903d 903f+2 9043 9045+2 9048+5 904e 9054+3 9059+2
   905c+6 9064 9066+2 9069+4 906f+5 9076+7 907e 9081 9084+4 9089+2 908c+5 9092 9094 9096 9098 909a
   909c 909e+3 90a4+2 90a7+3 90ab 90ad 90b2 90b7 90bc+2 90bf+2 647a 64b7+2 6499 64ba 64c0 64d0 64d7
   64e4 64e2 6509 6525 652e 5f0b 5fd2 7519 5f11 535f 53f1 53fd 53e9 53e8 53fb 5412 5416 5406 544b
   5452+3 5456 5443 5421 5457 5459 5423 5432 5482 5494 5477 5471 5464 549a+2 5484 5476 5466 549d
   54d0 54ad 54c2 54b4 54d2 54a7 54a6 54d3+2 5472 54a3 54d5 54bb 54bf 54cc 54d9+2 54dc 54a9+2 54a4
   54dd 54cf 54de 551b 54e7 5520 54fd 5514 54f3 5522+2 550f 5511 5527 552a 5567 558f 55b5 5549 556d
   5541 5555 553f 5550 553c",
  "90c2+2 90c6 90c8+2 90cb+3 90d2 90d4+3 90d8+3 90de+3 90e3+3 90e9+2 90ec 90ee 90f0+4 90f5+3 90f9+4
   90ff+3 9103 9105+14 911a+4 911f+3 9124+b 9130 9132+7 913a+9 9144 5537 5556 5575+3 5533 5530 555c
   558b 55d2 5583 55b1 55b9 5588 5581 559f 557e 55d6 5591 557b 55df 55bd+2 5594 5599 55ea 55f7 55c9
   561f 55d1 55eb+2 55d4 55e6 55dd 55c4 55ef 55e5 55f2+2 55cc+2 55e8 55f5 55e4 8f94 561e 5608 560c
   5601 5624 5623 55fe 5600 5627 562d 5658 5639 5657 562c 564d 5662 5659 565c 564c 5654 5686 5664
   5671 566b 567b+2 5685 5693 56af 56d4 56d7 56dd 56e1 56f5 56eb 56f9 56ff 5704 570a 5709 571c 5e0f
   5e19 5e14 5e11 5e31 5e3b+2",
  "9145 9147+2 9151 9153+4 9158+2 915b+2 915f+2 9166+3 916b 916d 9173 917a+3 9180+5 9186 9188 918a
   918e+2 9193+7 919c+6 91a4+6 91ab+2 91b0+4 91b6+4 91bb+c 91c8 91cb 91d0 91d2+a 91dd+9 5e37 5e44
   5e54 5e5b 5e5e 5e61 5c8c 5c7a 5c8d 5c90 5c96 5c88 5c98+2 5c91 5c9a 5c9c 5cb5 5ca2 5cbd 5cac 5cab
   5cb1 5ca3 5cc1 5cb7 5cc4 5cd2 5ce4 5ccb 5ce5 5d02+2 5d27 5d26 5d2e 5d24 5d1e 5d06 5d1b 5d58 5d3e
   5d34 5d3d 5d6c 5d5b 5d6f 5d5d 5d6b 5d4b 5d4a 5d69 5d74 5d82 5d99 5d9d 8c73 5db7 5dc5 5f73 5f77
   5f82 5f87 5f89 5f8c 5f95 5f99 5f9c 5fa8 5fad 5fb5 5fbc 8862 5f61 72ad 72b0 72b4 72b7+2 72c3 72c1
   72ce 72cd 72d2 72e8 72ef 72e9 72f2 72f4 72f7 7301 72f3 7303 72fa",
  "91e6+60 72fb 7317 7313 7321 730a 731e 731d 7315 7322 7339 7325 732c 7338 7331 7350 734d 7357
   7360 736c 736f 737e 821b 5925 98e7 5924 5902 9963 9967+6 9974 9977 997d 9980 9984 9987 998a 998d
   9990+2 9993+3 5e80 5e91 5e8b 5e96 5ea5 5ea0 5eb9 5eb5 5ebe 5eb3 8d53 5ed2 5ed1 5edb 5ee8 5eea
   81ba 5fc4 5fc9 5fd6 5fcf 6003 5fee 6004 5fe1 5fe4 5ffe 6005+2 5fea 5fed 5ff8 6019 6035 6026 601b
   600f 600d 6029 602b 600a 603f 6021 6078+2 607b 607a 6042",
  "9246+2e 9275+19 928f+19 606a 607d 6096 609a 60ad 609d 6083 6092 608c 609b 60ec 60bb 60b1 60dd
   60d8 60c6 60da 60b4 6120 6126 6115 6123 60f4 6100 610e 612b 614a 6175 61ac 6194 61a7 61b7 61d4
   61f5 5fdd 96b3 95e9 95eb 95f1 95f3 95f5+2 95fc 95fe 9603+2 9606 9608 960a+4 960f 9612 9615+3
   9619+2 4e2c 723f 6215 6c35 6c54 6c5c 6c4a 6ca3 6c85 6c90 6c94 6c8c 6c68+2 6c74 6c76 6c86 6ca9
   6cd0 6cd4 6cad 6cf7+2 6cf1 6cd7 6cb2 6ce0 6cd6 6cfa 6ceb 6cee 6cb1 6cd3 6cef 6cfe",
  "92a8+6 92af+19 92c9+41 6d39 6d27 6d0c 6d43 6d48 6d07 6d04 6d19 6d0e 6d2b 6d4d 6d2e 6d35 6d1a
   6d4f 6d52 6d54 6d33 6d91 6d6f 6d9e 6da0 6d5e 6d93+2 6d5c 6d60 6d7c 6d63 6e1a 6dc7 6dc5 6dde 6e0e
   6dbf 6de0 6e11 6de6 6ddd 6dd9 6e16 6dab 6e0c 6dae 6e2b 6e6e 6e4e 6e6b 6eb2 6e5f 6e86 6e53+2 6e32
   6e25 6e44 6edf 6eb1 6e98 6ee0 6f2d 6ee2 6ea5 6ea7 6ebd 6ebb 6eb7 6ed7 6eb4 6ecf 6e8f 6ec2 6e9f
   6f62 6f46+2 6f24 6f15 6ef9 6f2f 6f36 6f4b 6f74 6f2a 6f09 6f29 6f89 6f8d 6f8c 6f78 6f72 6f7c 6f7a
   6fd1",
  "930a+34 933f+2b 936b 6fc9 6fa7 6fb9 6fb6 6fc2 6fe1 6fee 6fde 6fe0 6fef 701a 7023 701b 7039 7035
   704f 705e 5b80 5b84 5b95 5b93 5ba5 5bb8 752f 9a9e 6434 5be4 5bee 8930 5bf0 8e47 8b07 8fb6 8fd3
   8fd5 8fe5 8fee 8fe4 8fe9 8fe6 8ff3 8fe8 9005 9004 900b 9026 9011 900d 9016 9021 9035+2 902d 902f
   9044 9051+2 9050 9068 9058 9062 905b 66b9 9074 907d 9082 9088 9083 908b 5f50 5f57 5f56 5f58 5c3b
   54ab 5c50 5c59 5b71 5c63 5c66 7fbc 5f2a 5f29 5f2d 8274 5f3c 9b3b 5c6e 5981 5983 598d 59a9+2
   59a3",
  "936c+23 9390+3a 93cb+3 5997 59ca 59ab 599e 59a4 59d2 59b2 59af 59d7 59be 5a05+2 59dd 5a08 59e3
   59d8 59f9 5a0c 5a09 5a32 5a34 5a11 5a23 5a13 5a40 5a67 5a4a 5a55 5a3c 5a62 5a75 80ec 5aaa 5a9b
   5a77 5a7a 5abe 5aeb 5ab2 5ad2 5ad4 5ab8 5ae0 5ae3 5af1 5ad6 5ae6 5ad8 5adc 5b09 5b17 5b16 5b32
   5b37 5b40 5c15 5c1c 5b5a 5b65 5b73 5b51 5b53 5b62 9a75 9a77+2 9a7a 9a7f 9a7d 9a80+2 9a85 9a88
   9a8a 9a90 9a92+2 9a96 9a98 9a9b+3 9a9f+2 9aa2+2 9aa5 9aa7 7e9f 7ea1 7ea3 7ea5 7ea8+2",
  "93ce+8 93d7+58 7ead 7eb0 7ebe 7ec0+3 7ec9 7ecb+2 7ed0 7ed4 7ed7 7edb 7ee0+2 7ee8 7eeb 7eee+2
   7ef1+2 7f0d 7ef6 7efa+2 7efe 7f01+3 7f07+2 7f0b+2 7f0f 7f11+2 7f17 7f19 7f1c 7f1b 7f1f 7f21+7
   7f2a+4 7f2f+5 7f35 5e7a 757f 5ddb 753e 9095 738e 7391 73ae 73a2 739f 73cf 73c2 73d1 73b7 73b3
   73c0 73c9 73c8 73e5 73d9 987c 740a 73e9 73e7 73de 73ba 73f2 740f 742a 745b 7426 7425 7428 7430
   742e 742c",
  "942f+f 943f+2c 946c+19 9491 9496 9498 94c7 94cf 94d3+2 94da 94e6 94fb 951c 9520 741b 741a 7441
   745c 7457 7455 7459 7477 746d 747e 749c 748e 7480+2 7487 748b 749e 74a8+2 7490 74a7 74d2 74ba
   97ea+3 674c 6753 675e 6748 6769 67a5 6787 676a 6773 6798 67a7 6775 67a8 679e 67ad 678b 6777 677c
   67f0 6809 67d8 680a 67e9 67b0 680c 67d9 67b5 67da 67b3 67dd 6800 67c3 67b8 67e2 680e 67c1 67fd
   6832+2 6860+2 684e 6862 6844 6864 6883 681d 6855 6866 6841 6867 6840 683e 684a 6849 6829 68b5
   688f 6874 6877 6893 686b 68c2 696e 68fc 691f+2 68f9",
  "9527 9533 953d 9543 9548 954b 9555 955a 9560 956e 9574+2 9577+8 9580+4c 6924 68f0 690b 6901 6957
   68e3 6910 6971 6939 6960 6942 695d 6984 696b 6980 6998 6978 6934 69cc 6987+2 69ce 6989 6966 6963
   6979 699b 69a7 69bb 69ab 69ad 69d4 69b1 69c1 69ca 69df 6995 69e0 698d 69ff 6a2f 69ed 6a17+2 6a65
   69f2 6a44 6a3e 6aa0 6a50 6a5b 6a35 6a8e 6a79 6a3d 6a28 6a58 6a7c 6a91 6a90 6aa9 6a97 6aab 7337
   7352 6b81+2 6b87 6b84 6b92+2 6b8d 6b9a+2 6ba1 6baa 8f6b 8f6d 8f71+3 8f75+2 8f78 8f77 8f79+2 8f7c
   8f7e 8f81+2 8f84 8f87 8f8b",
  "95cc+1c 95ec 95ff 9607 9613 9618 961b 961e 9620 9623+7 962b+3 962f+2 9637+4 963e 9641 9643 964a
   964e+2 9651+3 9656+5 965c+3 9660 9663 9665+2 966b 966d+5 9673 9678+d 9687 9689+2 8f8d+3 8f98
   8f9a 8ece 620b 6217 621b 621f 6222 6221 6225 6224 622c 81e7 74ef 74f4 74ff 750f 7511 7513 6534
   65ee+3 660a 6619 6772 6603 6615 6600 7085 66f7 661d 6634 6631 6636 6635 8006 665f 6654 6641 664f
   6656 6661 6657 6677 6684 668c 66a7 669d 66be 66db+2 66e6 66e9 8d32+2 8d36 8d3b 8d3d 8d40 8d45+2
   8d48+2 8d47 8d4d 8d55 8d59 89c7 89ca+3 89ce+4 726e 729f 725d 7266 726f 727e+2 7284 728b 728d
   728f 7292 6308 6332 63b0",
  "968c 968e 9691+3 9695+2 969a+2 969d+a 96a8+8 96b1+2 96b4+2 96b7+2 96ba+2 96bf 96c2+2 96c8 96ca+2
   96d0+2 96d3+2 96d6+a 96e1+7 96eb+4 96f0+3 96f4+2 96f8 96fa+4 96ff 9702+2 9705 970a+3 9710+3
   9714+2 9717+5 971d 971f+2 643f 64d8 8004 6bea 6bf3 6bfd 6bf5 6bf9 6c05 6c07 6c06 6c0d 6c15
   6c18+3 6c21 6c29 6c24 6c2a 6c32 6535 6555 656b 724d 7252 7256 7230 8662 5216 809f 809c 8093 80bc
   670a 80bd 80b1 80ab 80ad 80b4 80b7 80e7+4 80db 80c2 80c4 80d9 80cd 80d7 6710 80dd 80eb 80f1 80f4
   80ed 810d+2 80f2 80fc 6715 8112 8c5a 8136 811e 812c 8118 8132 8148 814c 8153 8174 8159+2 8171
   8160 8169 817c+2 816d 8167 584d 5ab5 8188 8182 8191 6ed5 81a3 81aa 81cc 6726 81ca 81bb",
  "9721+9 972b+2 972e+2 9731 9733+5 973a+4 973f+13 9754+2 9757+2 975a 975c+2 975f 9763+2 9766+3
   976a+9 9775 9777+5 977d+8 9786+5 978c 978e+3 9793 9795+3 9799+5 81c1 81a6 6b24 6b37 6b39 6b43
   6b46 6b59 98d1+3 98d5 98d9+2 6bb3 5f40 6bc2 89f3 6590 9f51 6593 65bc 65c6 65c4 65c3 65cc 65ce
   65d2 65d6 7080 709c 7096 709d 70bb 70c0 70b7 70ab 70b1 70e8 70ca 7110 7113 7116 712f 7131 7173
   715c 7168 7145 7172 714a 7178 717a 7198 71b3 71b5 71a8 71a0 71e0 71d4 71e7 71f9 721d 7228 706c
   7118 7166 71b9 623e 623d 6243 6248+2 793b 7940 7946 7949 795b+2 7953 795a 7962 7957 7960 796f
   7967 797a 7985 798a 799a 79a7 79b3 5fd1 5fd0",
  "979e+2 97a1+2 97a4+7 97ac 97ae 97b0+2 97b3 97b5+31 97e8 97ee+5 97f4 97f7+18 603c 605d 605a 6067
   6041 6059 6063 60ab 6106 610d 615d 61a9 619d 61cb 61d1 6206 8080 807f 6c93 6cf6 6dfc 77f6 77f8
   7800 7809 7817+2 7811 65ab 782d 781c+2 7839+3 781f 783c 7825 782c 7823 7829 784e 786d 7856+2
   7826 7850 7847 784c 786a 789b 7893 789a 7887 789c 78a1 78a3 78b2 78b9 78a5 78d4 78d9 78c9 78ec
   78f2 7905 78f4 7913 7924 791e 7934 9f9b 9ef9 9efb+2 76f1 7704 770d 76f9 7707+2 771a 7722 7719
   772d 7726 7735 7738 7750+2 7747 7743 775a 7768",
  "980f+60 7762 7765 777f 778d 777d 7780 778c 7791 779f+2 77b0 77b5 77bd 753a 7540 754e 754b 7548
   755b 7572 7579 7583 7f58 7f61 7f5f 8a48 7f68 7f74 7f71 7f79 7f81 7f7e 76cd 76e5 8832 9485+3 948b
   948a 948c+2 948f+2 9494 9497 9495 949a+3 94a3+2 94ab 94aa 94ad 94ac 94af+2 94b2 94b4 94b6+5
   94bc+2 94bf 94c4 94c8+7 94d0+3 94d5+3 94d9 94d8 94db 94de+3 94e2 94e4+2 94e7+2 94ea",
  "986f+6 988b 988e 9892 9895 9899 98a3 98a8+26 98cf+2 98d4 98d6+2 98db+3 98e0+7 98e9+1f 94e9 94eb
   94ee+2 94f3+3 94f7 94f9 94fc+2 94ff 9503 9502 9506+2 9509+2 950d+3 9512+5 9518 951b 951d+3 9522
   952a+2 9529 952c 9531+2 9534 9536+3 953c 953e+2 9542 9535 9544+3 9549 954c 954e+2 9552+3 9556+4
   955b 955e+2 955d 9561+2 9564+9 956f 9571+3 953a 77e7 77ec 96c9 79d5 79ed 79e3 79eb 7a06 5d47
   7a03 7a02 7a1e 7a14",
  "9908+5 990e+2 9911+1d 992f+25 9956+d 9964 9966 9973 9978+2 997b 997e 9982+2 9989 7a39 7a37 7a51
   9ecf 99a5 7a70 7688 768e 7693 7699 76a4 74de 74e0 752c 9e20 9e22 9e28+5 9e32 9e31 9e36 9e38 9e37
   9e39+2 9e3e 9e41+2 9e44 9e46+4 9e4b+2 9e4e 9e51 9e55 9e57 9e5a+3 9e5e 9e63 9e66+7 9e71 9e6d 9e73
   7592 7594 7596 75a0 759d 75ac 75a3 75b3+2 75b8 75c4 75b1 75b0 75c3 75c2 75d6 75cd 75e3 75e8 75e6
   75e4 75eb 75e7 7603 75f1 75fc 75ff 7610 7600 7605 760c 7617 760a 7625 7618 7615 7619",
  "998c 998e 999a+b 99a6+2 99a9+51 761b 763c 7622 7620 7640 762d 7630 763f 7635 7643 763e 7633 764d
   765e 7654 765c 7656 766b 766f 7fca 7ae6 7a78+2 7a80 7a86 7a88 7a95 7aa6 7aa0 7aac 7aa8 7aad 7ab3
   8864 8869 8872 887d 887f 8882 88a2 88c6 88b7 88bc 88c9 88e2 88ce 88e3 88e5 88f1 891a 88fc 88e8
   88fe 88f0 8921 8919 8913 891b 890a 8934 892b 8936 8941 8966 897b 758b 80e5 76b2 76b4 77dc 8012
   8014 8016 801c 8020 8022 8025+3 8029 8028 8031 800b 8035 8043 8046 804d 8052 8069 8071 8983 9878
   9880 9883",
  "99fa+60 9889 988c+2 988f 9894 989a+2 989e+2 98a1+2 98a5+2 864d 8654 866c 866e 867f 867a 867c
   867b 86a8 868d 868b 86ac 869d 86a7 86a3 86aa 8693 86a9 86b6 86c4 86b5 86ce 86b0 86ba 86b1 86af
   86c9 86cf 86b4 86e9 86f1+2 86ed 86f3 86d0 8713 86de 86f4 86df 86d8 86d1 8703 8707 86f8 8708 870a
   870d 8709 8723 873b 871e 8725 872e 871a 873e 8748 8734 8731 8729 8737 873f 8782 8722 877d+2 877b
   8760 8770 874c 876e 878b 8753 8763 877c 8764 8759 8765 8793 87af 87a8 87d2",
  "9a5a+12 9a72 9a83 9a89 9a8d+2 9a94+2 9a99 9aa6 9aa9+7 9ab2+4 9ab9 9abb 9abd+3 9ac3+2 9ac6+5
   9acd+4 9ad2 9ad4+4 9ad9+6 9ae0 9ae2+4 9ae7+4 9aec 9aee 9af0+9 9afa 9afc+7 9b04+3 87c6 8788 8785
   87ad 8797 8783 87ab 87e5 87ac 87b5 87b3 87cb 87d3 87bd 87d1 87c0 87ca 87db 87ea 87e0 87ee 8816
   8813 87fe 880a 881b 8821 8839 883c 7f36 7f42 7f44+2 8210 7afa 7afd 7b08 7b03+2 7b15 7b0a 7b2b
   7b0f 7b47 7b38 7b2a 7b19 7b2e 7b31 7b20 7b25 7b24 7b33 7b3e 7b1e 7b58 7b5a 7b45 7b75 7b4c 7b5d
   7b60 7b6e 7b7b 7b62 7b72 7b71 7b90 7ba6+2 7bb8 7bac 7b9d 7ba8 7b85 7baa 7b9c 7ba2 7bab 7bb4 7bd1
   7bc1 7bcc 7bdd 7bda 7be5+2 7bea 7c0c 7bfe 7bfc 7c0f 7c16 7c0b",
  "9b07 9b09+6 9b10+3 9b14+b 9b20+3 9b24+b 9b30+2 9b33+8 9b3d+4 9b46 9b4a+3 9b4e 9b50 9b52+2
   9b55+27 7c1f 7c2a 7c26 7c38 7c41 7c40 81fe 8201+2 8204 81ec 8844 8221+3 822d 822f 8228 822b 8238
   823b 8233+2 823e 8244 8249 824b 824f 825a 825f 8268 887e 8885 8888 88d8 88df 895e 7f9d 7f9f 7fa7
   7faf+2 7fb2 7c7c 6549 7c91 7c9d 7c9c 7c9e 7ca2 7cb2 7cbc+2 7cc1 7cc7 7ccc+2 7cc8 7cc5 7cd7 7ce8
   826e 66a8 7fbf 7fce 7fd5 7fe5 7fe1 7fe6 7fe9 7fee 7ff3 7cf8 7d77 7da6 7dae 7e47 7e9b 9eb8 9eb4
   8d73 8d84 8d94 8d91 8db1 8d67 8d6d 8c47 8c49 914a 9150 914e+2 9164",
  "9b7c+60 9162 9161 9170 9169 916f 917d+2 9172 9174 9179 918c 9185 9190 918d 9191 91a2+2 91aa
   91ad+3 91b5 91b4 91ba 8c55 9e7e 8db8 8deb 8e05 8e59 8e69 8db5 8dbf 8dbc 8dba 8dc4 8dd6+2 8dda
   8dde 8dce+2 8ddb 8dc6 8dec 8df7+2 8de3 8df9 8dfb 8de4 8e09 8dfd 8e14 8e1d 8e1f 8e2c 8e2e 8e23
   8e2f 8e3a 8e40 8e39 8e35 8e3d 8e31 8e49 8e41+2 8e51+2 8e4a 8e70 8e76 8e7c 8e6f 8e74 8e85 8e8f
   8e94 8e90 8e9c 8e9e 8c78 8c82 8c8a 8c85 8c98 8c94 659b 89d6 89de 89da 89dc",
  "9bdc+60 89e5 89eb 89ef 8a3e 8b26 9753 96e9 96f3 96ef 9706 9701 9708 970f 970e 972a 972d 9730
   973e 9f80 9f83 9f85+6 9f8c 9efe 9f0b 9f0d 96b9 96bc+2 96ce 96d2 77bf 96e0 928e 92ae 92c8 933e
   936a 93ca 938f 943e 946b 9c7f 9c82 9c85+4 7a23 9c8b 9c8e 9c90+3 9c94+2 9c9a+2 9c9e+6 9ca5+5 9cab
   9cad+2 9cb0+8 9cba+4 9cc4+4 9cca+2",
  "9c3c+40 9c7d+2 9c80 9c83+2 9c89+2 9c8c 9c8f 9c93 9c96+4 9c9d 9caa 9cac 9caf 9cb9 9cbe+5 9cc8+2
   9cd1+2 9cda+2 9ce0+2 9ccc+5 9cd3+3 9cd7+3 9cdc+2 9cdf 9ce2 977c 9785 9791+2 9794 97af 97ab 97a3
   97b2 97b4 9ab1 9ab0 9ab7 9e58 9ab6 9aba 9abc 9ac1 9ac0 9ac5 9ac2 9acb+2 9ad1 9b45 9b43 9b47 9b49
   9b48 9b4d 9b51 98e8 990d 992e 9955 9954 9adf 9ae1 9ae6 9aef 9aeb 9afb 9aed 9af9 9b08 9b0f 9b13
   9b1f 9b23 9ebd+2 7e3b 9e82 9e87+2 9e8b 9e92 93d6 9e9d 9e9f 9edb+3 9ee0 9edf 9ee2 9ee9 9ee7 9ee5
   9eea 9eef 9f22 9f2c 9f2f 9f39 9f37 9f3d+2 9f44",
  "9ce3+60 e234+5e",
  "9d43+60 e292+5e",
  "9da3+60 e2f0+5e",
  "9e03+1c 9e24 9e27 9e2e 9e30 9e34 9e3b+2 9e40 9e4d 9e50 9e52+3 9e56 9e59 9e5d 9e5f+4 9e65 9e6e+2
   9e72 9e74+a 9e80+2 9e83+4 9e89+2 9e8c+6 9e94+9 9e9e 9ea0+6 9ea7+4 e34e+5e",
  "9eab+9 9eb5+3 9eb9+2 9ebc 9ebf+5 9ec5+4 9eca+3 9ed0 9ed2+2 9ed5+3 9ed9+2 9ede 9ee1 9ee3+2 9ee6
   9ee8 9eeb+4 9ef0+9 9efa 9efd 9eff+c 9f0c 9f0f 9f11+2 9f14+3 9f18 9f1a+6 9f21 9f23+9 9f2d+2
   9f30+2 e3ac+5e",
  "9f32+5 9f38 9f3a 9f3c 9f3f+5 9f45+b 9f52+2d 9f81+2 9f8d+c 9f9c+3 9fa1+5 f92c f979 f995 f9e7 f9f1
   e40a+5e",
  "fa0c+4 fa11 fa13+2 fa18 fa1f+3 fa23+2 fa27+3 2e81 e816+3 2e84 3473 3447 2e88 2e8b 9fb4 359e 361a
   360e 2e8c 2e97 396e 3918 9fb5 39cf 39df 3a73 39d0 9fb6+2 3b4e 3c6e 3ce0 2ea7 e831 9fb8 2eaa 4056
   415f 2eae 4337 2eb3 2eb6+2 e83b 43b1 43ac 2ebb 43dd 44d6 4661 464c 9fb9 4723 4729 477c 478d 2eca
   4947 497a 497d 4982+2 4985+2 499f 499b 49b7 49b6 9fba e855 4ca3 4c9f+3 4c77 4ca2 4d13+7 4dae
   9fbb e468+5e"]

/-- Characters of four bytes: `p:a` says that the pointers from `p` on stand for
the characters from `a` on, hexadecimal. -/
def chineseRangeData : String :=
  "0:80 24:a5 26:a9 2d:b2 32:b8 51:d8 59:e2 5f:eb 60:ee 64:f4 67:f8 68:fb 69:fd 6d:102 7e:114
   85:11c 94:12c ac:145 af:149 b3:14e d0:16c 132:1cf 133:1d1 134:1d3 135:1d5 136:1d7 137:1d9
   138:1db 139:1dd 155:1fa 1ac:252 1bb:262 220:2c8 221:2cc 22e:2da 2e5:3a2 2e6:3aa 2ed:3c2 2ee:3ca
   325:402 333:450 334:452 1ef2:2011 1ef4:2017 1ef5:201a 1ef7:201e 1efe:2027 1f07:2031 1f08:2034
   1f09:2036 1f0e:203c 1f7e:20ad 1fd4:2104 1fd5:2106 1fd8:210a 1fe4:2117 1fee:2122 202c:216c
   2030:217a 2046:2194 2048:219a 20b6:2209 20bc:2210 20bd:2212 20c0:2216 20c4:221b 20c6:2221
   20c8:2224 20c9:2226 20ca:222c 20cc:222f 20d1:2238 20d6:223e 20e0:2249 20e3:224d 20e8:2253
   20f5:2262 20f7:2268 20fd:2270 2122:2296 2125:229a 2130:22a6 2149:22c0 219b:2313 22e8:246a
   22f2:249c 2356:254c 235a:2574 2367:2590 236a:2596 2374:25a2 2384:25b4 238c:25be 2394:25c8
   2397:25cc 2399:25d0 23ab:25e6 23ca:2607 23cc:260a 2402:2641 2403:2643 2c41:2e82 2c43:2e85
   2c46:2e89 2c48:2e8d 2c52:2e98 2c61:2ea8 2c63:2eab 2c66:2eaf 2c6a:2eb4 2c6c:2eb8 2c6f:2ebc
   2c7d:2ecb 2da2:2ffc 2da6:3004 2da7:3018 2dac:301f 2dae:302a 2dc2:303f 2dc4:3094 2dcb:309f
   2dcd:30f7 2dd2:30ff 2dd8:312a 2ece:322a 2ed5:3232 2f46:32a4 3030:3390 303c:339f 303e:33a2
   3060:33c5 3069:33cf 306b:33d3 306d:33d6 30de:3448 3109:3474 3233:359f 32a2:360f 32ad:361b
   35aa:3919 35ff:396f 365f:39d1 366d:39e0 3700:3a74 37da:3b4f 38f9:3c6f 396a:3ce1 3cdf:4057
   3de7:4160 3fbe:4338 4032:43ad 4036:43b2 4061:43de 4159:44d7 42ce:464d 42e2:4662 43a3:4724
   43a8:472a 43fa:477d 440a:478e 45c3:4948 45f5:497b 45f7:497e 45fb:4984 45fc:4987 4610:499c
   4613:49a0 4629:49b8 48e8:4c78 490f:4ca4 497e:4d1a 4a12:4daf 4a63:9fa6 82bd:e76c 82be:e7c8
   82bf:e7e7 82cc:e815 82cd:e819 82d2:e81f 82d9:e827 82dd:e82d 82e1:e833 82e9:e83c 82f0:e844
   8300:e856 830e:e865 93d5:f92d 9421:f97a 943c:f996 948d:f9e8 9496:f9f2 94b0:fa10 94b1:fa12
   94b2:fa15 94b5:fa19 94bb:fa22 94bc:fa25 94be:fa2a 98c4:fe32 98c5:fe45 98c9:fe53 98ca:fe58
   98cb:fe67 98cc:fe6c 9961:ff5f 99e2:ffe6 2e248:10000"

end Folio.Charset
