/-
# TableQuery.Collation.ElementTable — the default collation elements of Unicode, as text.

An entry is `key=elements`.  The key is a code point, a code point with a count (`start*count`: all
have the same element; `start+count`: the first weight rises by one), or a sequence of code points
apart by commas.  An element is its first weight, then its third and its second weight after
slashes where these are not 2 and 20.  All numbers are hexadecimal.  Characters that decompose have
no entry, as only decomposed text is looked up.
-/
namespace TableQuery
namespace Collation
namespace ElementTable

/-- Elements: Latin, Greek, Cyrillic, and the marks they carry. -/
def latinGreekCyrillic : String :=
  "0*9=0/0/0 9+5=201 e*12=0/0/0 20=209 21=267 22=31d 23=3ac 24=1f64 25=3ad 26=3a9 27=316 28+2=328 " ++
  "2a=3a1 2b=666 2c=223 2d=20d 2e=27e 2f=3a6 30+a=1f98 3a=240 3b=23a 3c+3=66a 3f=26d 40=3a0 " ++
  "41=1fa2/8 42=1fbc/8 43=1fd6/8 44=1feb/8 45=2007/8 46=2042/8 47=2051/8 48=2075/8 49=2090/8 " ++
  "4a=20ab/8 4b=20c4/8 4c=20d6/8 4c,b7=20d6/8,0/2/118 4d=2109/8 4e=2118/8 4f=213c/8 50=216b/8 " ++
  "51=2180/8 52=2193/8 53=21d2/8 54=21f7/8 55=2217/8 56=2247/8 57=2259/8 58=2264/8 59=2270/8 " ++
  "5a=2286/8 5b=32a 5c=3a7 5d=32b 5e=4b7 5f=20b 60=4b4 61=1fa2 62=1fbc 63=1fd6 64=1feb 65=2007 " ++
  "66=2042 67=2051 68=2075 69=2090 6a=20ab 6b=20c4 6c=20d6 6c,b7=20d6,0/2/118 6d=2109 6e=2118 " ++
  "6f=213c 70=216b 71=2180 72=2193 73=21d2 74=21f7 75=2217 76=2247 77=2259 78=2264 79=2270 " ++
  "7a=2286 7b=32c 7c=66e 7d=32d 7e=670 7f*6=0/0/0 85=206 86*1a=0/0/0 a0=209/1b a1=268 a2=1f63 " ++
  "a3=1f65 a4=1f62 a5=1f66 a6=66f a7=39a a8=4bb a9=5d2 aa=1fa2/14 ab=326 ac=66d ad=0/0/0 ae=5d4 " ++
  "af=4b8 b0=52a b1=667 b2+2=1f9a/14 b4=4b5 b5=2330/4 b6=39c b7=293 b8=4be b9=1f99/14 ba=213c/14 " ++
  "bb=327 bc=1f99/1e,676/1e,1f9c/1e bd=1f99/1e,676/1e,1f9a/1e be=1f9b/1e,676/1e,1f9c/1e bf=26e " ++
  "c6=1fa2/a,0/4/118,2007/a d0=1feb/a,0/4/118 d7=669 d8=213c/8,0/2/2f de=22b5/8 " ++
  "df=21d2/4,0/4/118,21d2/4 e6=1fa2/4,0/4/118,2007/4 f0=1feb/4,0/4/118 f7=668 f8=213c,0/2/2f " ++
  "fe=22b5 110=1feb/8,0/2/39 111=1feb,0/2/39 126=2075/8,0/2/39 127=2075,0/2/39 131=2094 " ++
  "132=2090/a,20ab/a 133=2090/4,20ab/4 138=218f 13f=20d6/8,0/2/118 140=20d6,0/2/118 " ++
  "141=20d6/8,0/2/39 142=20d6,0/2/39 149=22e3/4,2118/4 14a=2137/8 14b=2137 " ++
  "152=213c/a,0/4/118,2007/a 153=213c/4,0/4/118,2007/4 166=21fc/8 167=21fc 17f=21d2/4,0/4/119 " ++
  "180=1fc4 181=1fcd/8 182=1fd1/8 183=1fd1 184=22d6/8 185=22d6 186=214f/8 187=1fe1/8 188=1fe1 " ++
  "189=1ff4/8 18a=1ff8/8 18b=1ffd/8 18c=1ffd 18d=2286/4,2259/4 18e=2015/8 18f=201a/8 190=201f/8 " ++
  "191=204b/8 192=204b 193=2063/8 194=206d/8 195=207d 196=20a6/8 197=209f/8 198=20ca/8 199=20ca " ++
  "19a=20e1 19b=2101 19c=2238/8 19d=2123/8 19e=2127 19f=215c/8 1a2=2071/8 1a3=2071 1a4=2174/8 " ++
  "1a5=2174 1a6=2198/8 1a7=22ce/8 1a8=22ce 1a9=21e4/8 1aa=21ea 1ab=2202 1ac=2206/8 1ad=2206 " ++
  "1ae=220a/8 1b1=2242/8 1b2=224e/8 1b3=227c/8 1b4=227c 1b5=228b/8 1b6=228b 1b7=22a3/8 1b8=22a8/8 " ++
  "1b9=22a8 1ba=22ad 1bb=22c7 1bc=22d2/8 1bd=22d2 1be=21f7/4,21d2/4 1bf=22bb 1c0=22fe 1c1=2302 " ++
  "1c2=2306 1c3=230a 1c4=1feb/a,2286/a,0/4/28 1c5=1feb/a,2286/4,0/4/28 1c6=1feb/4,2286/4,0/4/28 " ++
  "1c7=20d6/a,20ab/a 1c8=20d6/a,20ab/4 1c9=20d6/4,20ab/4 1ca=2118/a,20ab/a 1cb=2118/a,20ab/4 " ++
  "1cc=2118/4,20ab/4 1dd=2015 1e4=205e/8 1e5=205e 1f1=1feb/a,2286/a 1f2=1feb/a,2286/4 " ++
  "1f3=1feb/4,2286/4 1f6=207d/8 1f7=22bb/8 21c=2282/8 21d=2282 220=2127/8 221=2001 222=2166/8 " ++
  "223=2166 224=2291/8 225=2291 234=20f7 235=2131 236=220e 237=20af 238=1feb/4,1fbc/4 " ++
  "239=2180/4,216b/4 23a=1fa7/8 23b=1fdb/8 23c=1fdb 23d=20e1/8 23e=2200/8 23f=21de 240=229d " ++
  "241=22de/8 242=22de 243=1fc4/8 244=2222/8 245=2255/8 246=200e/8 247=200e 248=20b4/8 249=20b4 " ++
  "24a=218b/8 24b=218b 24c=219f/8 24d=219f 24e=2278/8 24f=2278 250=1fad 251=1fb1 252=1fb7 " ++
  "253=1fcd 254=214f 255=1fe5 256=1ff4 257=1ff8 258=2024 259=201a 25a=2028 25b=201f 25c=202c " ++
  "25d=2032 25e=2036 25f=20bc 260=2063 261=2055 262=205a 263=206d 264=203e 265=222c 266=2082 " ++
  "267=208a 268=209f 269=20a6 26a=2098 26b=20e6 26c=20ec 26d=20f2 26e=20fc 26f=2238 270=223e " ++
  "271=2110 272=2123 273=212d 274=211c 275=215c 276=2143 277=2161 278=217b 279=21a4 27a=21a9 " ++
  "27b=21ae 27c=21b3 27d=21b7 27e=21bc 27f=21c1 280=2198 281=21ca 282=21da 283=21e4 284=20c0 " ++
  "285=21ee 286=21f3 287=2213 288=220a 289=2222 28a=2242 28b=224e 28c=2255 28d=2260 28e=2105 " ++
  "28f=2274 290=2295 291=2299 292=22a3 293=22b1 294=22da 295=22e9 296=22fa 297=230e 298=2312 " ++
  "299=1fc0 29a=203a 29b=2067 29c=2079 29d=20b8 29e=20d2 29f=20da 2a0=2187 2a1=22f2 2a2=22f6 " ++
  "2a3=1feb/4,2286/4 2a4=1feb/4,22a3/4 2a5=1feb/4,2299/4 2a6=21f7/4,21d2/4 2a7=21f7/4,21e4/4 " ++
  "2a8=21f7/4,1fe5/4 2a9=2042/4,2137/4 2aa=20d6/4,21d2/4 2ab=20d6/4,2286/4 2ac=2316 2ad=231a " ++
  "2ae=2230 2af=2234 2b0=2075/14 2b1=2082/14 2b2=20ab/14 2b3=2193/14 2b4=21a4/14 2b5=21ae/14 " ++
  "2b6=21ca/14 2b7=2259/14 2b8=2270/14 2b9=4c5 2ba=4c7 2bb=208e 2bc=22e3 2bd=208f 2be=22e5 " ++
  "2bf=22ed 2c0=22e2 2c1=22ee 2c2+e=4c8 2d0+2=1f46 2d2+4=4d6 2d6+2=4dc 2d8+2=4b9 2da=4bc 2db=4bf " ++
  "2dc=4b6 2dd=4bd 2de+2=4de 2e0=206d/14 2e1=20d6/14 2e2=21d2/14 2e3=2264/14 2e4=22e9/14 " ++
  "2e5+9=4e0 2ee=22e4 2ef+11=4e9 300=0/2/25 301=0/2/24 302=0/2/27 303=0/2/2d 304=0/2/32 " ++
  "305=0/2/3a 306=0/2/26 307=0/2/2e 308=0/2/2b 309=0/2/3b 30a=0/2/29 30b=0/2/2c 30c=0/2/28 " ++
  "30d*2=0/2/33 30f=0/2/3c 310=0/2/3d 311=0/2/3e 312=0/2/33 313=0/2/22 314=0/2/23 315=0/2/33 " ++
  "316*4=0/2/34 31a=0/2/33 31b=0/2/3f 31c*5=0/2/34 321=0/2/40 322=0/2/41 323=0/2/42 324=0/2/43 " ++
  "325=0/2/44 326=0/2/45 327=0/2/30 328=0/2/31 329*4=0/2/34 32d=0/2/46 32e=0/2/47 32f=0/2/34 " ++
  "330=0/2/48 331=0/2/49 332=0/2/21 333=0/2/34 334=0/2/4a 335=0/2/39 336*2=0/2/35 338=0/2/2f " ++
  "339=0/2/4b 33a*3=0/2/34 33d*3=0/2/33 342=0/2/2a 345=0/2/4c 346=0/2/33 347*3=0/2/34 " ++
  "34a*3=0/2/33 34d*2=0/2/34 34f=0/0/0 350*3=0/2/33 353*4=0/2/34 357=0/2/33 358=0/2/4d " ++
  "359*2=0/2/34 35b=0/2/33 35c=0/2/34 35d*2=0/2/33 35f=0/2/34 360=0/2/4e 361=0/2/4f 362=0/2/34 " ++
  "363=1fa2/4 364=2007/4 365=2090/4 366=213c/4 367=2217/4 368=1fd6/4 369=1feb/4 36a=2075/4 " ++
  "36b=2109/4 36c=2193/4 36d=21f7/4 36e=2247/4 36f=2264/4 370=2328/8 371=2328 372=2349/8 373=2349 " ++
  "375=4c6 376=2325/8 377=2325 37a=232b/4 37b=233e 37c=233d 37d=233f 37f=232c/8 384=4b5 " ++
  "391+3=231e/8 394+2=2322/8 396=2327/8 397+3=2329/8 39a+2=232d/8 39c+5=2330/8 3a1=2339/8 " ++
  "3a3=233c/8 3a4+5=2340/8 3a9=2346/8 3b1+3=231e 3b4+2=2322 3b6=2327 3b7+3=2329 3ba+2=232d " ++
  "3bc+5=2330 3c1=2339 3c2=233c/19 3c3=233c 3c4+5=2340 3c9=2346 3cf=232d/a,231e/4,232b/4 " ++
  "3d0=231f/4 3d1=232a/4 3d2=2341/a 3d5=2342/4 3d6=2334/4 3d7=232d/4,231e/4,232b/4 3d8=2338/8 " ++
  "3d9=2338 3da=2326/8 3db=2326 3dc=2324/8 3dd=2324 3de=2337/8 3df=2337 3e0=2348/8 3e1=2348 " ++
  "3e2=236a/8 3e3=236a 3e4=236f/8 3e5=236f 3e6=2370/8 3e7=2370 3e8=2373/8 3e9=2373 3ea=237a/8 " ++
  "3eb=237a 3ec=237d/8 3ed=237d 3ee=2381/8 3ef=2381 3f0=232d/4 3f1=2339/4 3f2=233c/4 3f3=232c " ++
  "3f4=232a/a 3f5=2323/4 3f6=661 3f7=234a/8 3f8=234a 3f9=233c/a 3fa=2336/8 3fb=2336 3fc=233b " ++
  "3fd=233e/8 3fe=233d/8 3ff=233f/8 402=23b5/8 404=23c3/8 405=23d9/8 406=23ed/8 408=23f6/8 " ++
  "409=2421/8 40a=2447/8 40b=247e/8 40f=24e4/8 410=2387/8 411=2393/8 412=2397/8 413=239b/8 " ++
  "414=23af/8 415=23bf/8 416=23c7/8 417=23d1/8 418=23e5/8 418,306=23f2/8 41a=23fb/8 41b=2415/8 " ++
  "41c=2428/8 41d=2431/8 41e=244c/8 41f=2454/8 420=2461/8 421=246a/8 422=2473/8 423=2482/8 " ++
  "424=2493/8 425=2497/8 426=24be/8 427=24c9/8 428=24e8/8 429=24ed/8 42a=24f4/8 42b=24f9/8 " ++
  "42c=24fd/8 42d=250a/8 42e=250e/8 42f=2514/8 430=2387 431=2393 432=2397 433=239b 434=23af " ++
  "435=23bf 436=23c7 437=23d1 438=23e5 438,306=23f2 43a=23fb 43b=2415 43c=2428 43d=2431 43e=244c " ++
  "43f=2454 440=2461 441=246a 442=2473 443=2482 444=2493 445=2497 446=24be 447=24c9 448=24e8 " ++
  "449=24ed 44a=24f4 44b=24f9 44c=24fd 44d=250a 44e=250e 44f=2514 452=23b5 454=23c3 455=23d9 " ++
  "456=23ed 458=23f6 459=2421 45a=2447 45b=247e 45f=24e4 460=24ad/8 461=24ad 462=2505/8 463=2505 " ++
  "464=2519/8 465=2519 466=251d/8 467=251d 468=2527/8 469=2527 46a=2522/8 46b=2522 46c=252c/8 " ++
  "46d=252c 46e=2530/8 46f=2530 470=2534/8 471=2534 472=2538/8 473=2538 474=253c/8 475=253c " ++
  "478=248f/8 479=248f 47a=24ba/8 47b=24ba 47c=24b6/8 47d=24b6 47e=24b1/8 47f=24b1 480=245d/8 " ++
  "481=245d 482=52b 483=0/2/50 484=0/2/33 485=0/2/23 486=0/2/22 487=0/2/33 488*2=0/0/0 48a=23e9/8 " ++
  "48b=23e9 48c=2501/8 48d=2501 48e=2465/8 48f=2465 490=239b/a,0/4/119 491=239b/4,0/4/119 " ++
  "492=239f/8 493=239f 494=23a7/8 495=23a7 496=23cd/8 497=23cd 498=23bb/8 499=23bb 49a=23ff/8 " ++
  "49b=23ff 49c=240f/8 49d=240f 49e=240b/8 49f=240b 4a0=2407/8 4a1=2407 4a2=243a/8 4a3=243a " ++
  "4a4=2443/8 4a5=2443 4a6=2459/8 4a7=2459 4a8=2541/8 4a9=2541 4aa=246f/8 4ab=246f 4ac=2479/8 " ++
  "4ad=2479 4ae=2486/8 4af=2486 4b0=248a/8 4b1=248a 4b2=24a3/8 4b3=24a3 4b4=24c4/8 4b5=24c4 " ++
  "4b6=24cf/8 4b7=24cf 4b8=24d7/8 4b9=24d7 4ba=24a7/8 4bb=24a7 4bc=24dc/8 4bd=24dc 4be=24e0/8 " ++
  "4bf=24e0 4c0=2546/8 4c3=2403/8 4c4=2403 4c5=241a/8 4c6=241a 4c7=243e/8 4c8=243e 4c9=2436/8 " ++
  "4ca=2436 4cb=24d3/8 4cc=24d3 4cd=242c/8 4ce=242c 4cf=2546 4d4=238f/8 4d5=238f 4d8=238b/8 " ++
  "4d9=238b 4e0=23de/8 4e1=23de 4e8=2450/8 4e9=2450 4f6=23ab/8 4f7=23ab 4fa=23a3/8 4fb=23a3 " ++
  "4fc=249b/8 4fd=249b 4fe=249f/8 4ff=249f 500=23b3/8 501=23b3 502=23ba/8 503=23ba 504=23d6/8 " ++
  "505=23d6 506=23e3/8 507=23e3 508=2426/8 509=2426 50a=244b/8 50b=244b 50c=246e/8 50d=246e " ++
  "50e=2478/8 50f=2478 510=23d7/8 511=23d7 512=241f/8 513=241f 514=2427/8 515=2427 516=2469/8 " ++
  "517=2469 518=2518/8 519=2518 51a=2414/8 51b=2414 51c=2545/8 51d=2545 51e=2413/8 51f=2413 " ++
  "520=2420/8 521=2420 522=2442/8 523=2442 524=2458/8 525=2458 526=24ab/8 527=24ab 528=2435/8 " ++
  "529=2435 52a=23cb/8 52b=23cb 52c=24cd/8 52d=24cd 52e=241e/8 52f=241e"

/-- Elements: Armenian, Hebrew, Arabic, the scripts of India, Thai to Burmese. -/
def middleEastToBurma : String :=
  "531=25f5/8 532+14=25f7/8 546+11=260c/8 559=261d 55a+2=3e4 55c=269 55d=22a 55e=270 55f=3e6 " ++
  "561=25f5 562+14=25f7 576+11=260c 587=25fa/4,2618/4 589=241 58a=20e 58d+2=52c 58f=1f67 " ++
  "591*1f=0/0/0 5b0=0/2/52 5b1=0/2/53 5b2=0/2/54 5b3=0/2/55 5b4=0/2/56 5b5=0/2/57 5b6=0/2/58 " ++
  "5b7=0/2/59 5b8=0/2/5a 5b9*2=0/2/5b 5bb=0/2/5c 5bc=0/2/5f 5bd=0/0/0 5be=3e7 5bf=0/2/60 5c0=3e8 " ++
  "5c1=0/2/5e 5c2=0/2/5d 5c3=3e9 5c4*2=0/0/0 5c6=3ea 5c7=0/2/5a 5d0+a=261e 5da=2628/19 5db+2=2628 " ++
  "5dd=262a/19 5de=262a 5df=262b/19 5e0+3=262b 5e3=262e/19 5e4=262e 5e5=262f/19 5e6+5=262f " ++
  "5f0=2623/4,2623/4 5f1=2623/4,2627/4 5f2=2627/4,2627/4 5f3+2=3eb 600*6=0/0/0 606=67d 607=67f " ++
  "608=52e 609=3b0 60a=3b2 60b=1f68 60c+2=22b 60e+2=531 610*b=0/0/0 61b=23b 61c=0/0/0 61e=242 " ++
  "61f=271 620=2740 621=2664 627=2672 627,653=2665 627,654=2666 627,655=266a 628=2674 629+3=2684 " ++
  "62c=268f 62d+2=2699 62f+2=26a4 631+2=26b3 633+2=26c6 635+2=26d1 637+2=26d7 639+2=26db " ++
  "63b+2=2707 63d+3=273d 640=0/0/0 641=26e4 642=26f0 643=26f6 644=270c 645=2714 646=2718 647=2722 " ++
  "648=2728 648,654=2669 649+2=2736 64a,654=266e 64b=0/2/6d 64c=0/2/70 64d=0/2/73 64e=0/2/76 " ++
  "64f=0/2/7a 650=0/2/7d 651=0/2/80 652=0/2/81 653=0/2/82 654=0/2/83 655=0/2/84 656=0/2/86 " ++
  "657=0/2/87 658=0/2/88 659=0/2/8a 65a=0/2/8b 65b=0/2/8c 65c=0/2/8d 65d=0/2/8e 65e=0/2/8f " ++
  "65f=0/2/85 660+a=1f98 66a=3ae 66b+2=22d 66d=3a4 66e=2673 66f=26ef 670=0/2/98 671=2668 672=2667 " ++
  "673=266b 674=2664/4 675=2672/4,2664/4 676=2728/4,2664/4 677=272c/4,2664/4 678=2737/4,2664/4 " ++
  "679+2=2687 67b=2675 67c+2=2689 67e=2676 67f=268b 680=2677 681+2=269b 683+2=2690 685=269d " ++
  "686=2692 687=2694 688+6=26a6 68e+3=26ad 691+9=26b5 69a+3=26c8 69d=26d3 69e=26d5 69f=26d9 " ++
  "6a0=26dd 6a1+2=26e5 6a3+2=26e8 6a5+2=26eb 6a7=26f1 6a8=26f3 6a9+4=26f7 6ad+2=26fc 6af=26ff " ++
  "6b0+5=2701 6b5+4=270d 6b9=271e 6ba=2719 6bb+3=271b 6be=2723 6bf=2693 6c1=2724 6c3=2725 " ++
  "6c4+8=2729 6cc+3=2738 6cf=2732 6d0+2=273b 6d2=2745 6d4=280 6d5=2727 6d6*8=0/0/0 6de=533 " ++
  "6df*6=0/0/0 6e5=2728/4 6e6=2737/4 6e7*2=0/0/0 6e9=534 6ea*4=0/0/0 6ee=26b0 6ef=26be 6f0+a=1f98 " ++
  "6fa=26cb 6fb=26d6 6fc=26df 6fd=2664/4,0/4/119 6fe=2714/4,0/4/119 6ff=2726 700=2cd 701+2=281 " ++
  "703+6=243 709=272 70a+4=3ed 70f=0/0/0 710=2748 711=0/2/99 712+2=2749 714=274a/4,0/4/119 " ++
  "715=274c 716=274b 717+3=274d 71a+2=2751 71c=2752/4,0/4/119 71d+3=2753 720+4=2757 724=275a/19 " ++
  "725+2=275b 727=275c/4,0/4/119 728+5=275e 72d=2749/4,0/4/11a 72e=274a/4,0/4/11a " ++
  "72f=274c/4,0/4/11a 730=0/2/9a 731=0/2/9b 732=0/2/9c 733=0/2/9d 734=0/2/9e 735=0/2/9f " ++
  "736=0/2/a0 737=0/2/a1 738=0/2/a2 739=0/2/a3 73a=0/2/a4 73b=0/2/a5 73c=0/2/a6 73d=0/2/a7 " ++
  "73e=0/2/a8 73f=0/2/a9 740=0/0/0 741=0/2/33 742=0/2/34 743*2=0/0/0 745=0/2/33 746=0/2/34 " ++
  "747*4=0/0/0 74d=2750 74e=2756 74f=275d 750+6=2678 756=267f 757+2=269e 759+2=26b1 75b=26bf " ++
  "75c=26cc 75d+3=26e0 760+2=26ed 762=2706 763+2=2709 765+2=2715 767+3=271f 76a=2711 76b+2=26c0 " ++
  "76d=26cd 76e+2=26a0 770=26ce 771=26c2 772=26a2 773+2=266c 775+3=2741 778+2=2733 77a+2=2746 " ++
  "77c=26a3 77d+2=26cf 77f=26fb 780=2787 781+3=278a 784+4=278e 788=2794 789+3=2796 78c=279a " ++
  "78d+2=279e 78f+2=27a1 791+7=27a6 798=279b 799+2=2788 79b=2799 79c=278d 79d+3=27a3 7a0+2=279c " ++
  "7a2+2=2792 7a4=27a0 7a5=2795 7a6+b=27ae 7b1=27ad 7c0+a=1f98 7ca+1e=27b9 7e8=27c5/4,0/4/118 " ++
  "7e9=27c6/4,0/4/118 7ea=27c8/4,0/4/118 7eb=0/2/aa 7ec=0/2/ab 7ed=0/2/ac 7ee=0/2/ad 7ef=0/2/ae " ++
  "7f0=0/2/af 7f1=0/2/b0 7f2=0/2/b1 7f3=0/2/b2 7f4+2=27d7 7f6=546 7f7=2ce 7f8=22f 7f9=26a " ++
  "7fa=0/0/0 800+18=264a 818=0/2/6a 819=0/2/6b 81a+2=2662 81c*2=0/2/62 81e*3=0/2/63 821*3=0/2/64 " ++
  "824*2=0/2/65 826*2=0/2/66 828*3=0/2/67 82b=0/2/68 82c=0/2/69 82d=0/2/6c 830+f=249 840+19=276e " ++
  "859*3=0/2/34 85e=3f1 8a0=267e 8a1=2681 8a2=2695 8a3=26da 8a4=26ea 8a5=26f5 8a6=2712 8a7=2717 " ++
  "8a8+2=266f 8aa=26c3 8ab=2735 8ac=2671 8ad=2672/4 8ae=26ac 8af=26d4 8b0=2700 8b1=2731 8b2=26c4 " ++
  "8b3=26e3 8b4=26fe 8b6+2=2682 8b8=268c 8b9=26c5 8ba=2744 8bb=26e7 8bc=26f2 8bd=271a 8d4*f=0/0/0 " ++
  "8e3=0/2/90 8e4=0/2/77 8e5=0/2/7b 8e6=0/2/7e 8e7=0/2/6f 8e8=0/2/72 8e9=0/2/75 8ea*6=0/0/0 " ++
  "8f0=0/2/6e 8f1=0/2/71 8f2=0/2/74 8f3=0/0/0 8f4=0/2/78 8f5=0/2/79 8f6=0/2/7f 8f7=0/2/91 " ++
  "8f8=0/2/92 8f9=0/2/96 8fa=0/2/97 8fb=0/2/94 8fc=0/2/95 8fd=0/2/93 8fe=0/2/7c 8ff=0/2/89 " ++
  "900*2=0/2/c3 902=0/2/c4 903=0/2/c5 904+3=29da 907+5=29e2 90c=29e8 90d+4=29ea 911+7=29ef " ++
  "918+5=29f7 91d+4=29fe 921=2a03 922+7=2a05 92a+3=2a0c 92d+3=2a10 930=2a14 932+2=2a15 935+5=2a17 " ++
  "93a+2=2a24 93c=0/2/c2 93d=2a1c 93e=2a23 93f+6=2a29 945=2a31 946+2=2a33 948=2a36 949+5=2a38 " ++
  "94e=2a35 94f=2a26 950=29d7 951*2=0/0/0 953=0/2/25 954=0/2/24 955=2a32 956+2=2a27 960=29e7 " ++
  "961=29e9 962+2=2a2f 964+2=296 966+a=1f98 970=400 971=1f48 972=29d9 973+5=29dd 978=2a02 " ++
  "979=29fc 97a=2a13 97b=29f6 97c=29fd 97d=2a1d 97e=2a04 97f=2a0f 980=2a3d 981=0/2/c3 982=0/2/c4 " ++
  "983=0/2/c5 985+7=2a3e 98c=2a46 98f+2=2a48 993+16=2a4a 9aa+7=2a60 9b2=2a68 9b6+4=2a6a " ++
  "9bc=0/2/c2 9bd+8=2a6e 9c7=2a78 9c7,9be=2a7a 9c7,9d7=2a7b 9c8=2a79 9cd=2a7c 9ce=2a5b/4,2a7c/4 " ++
  "9d7=2a7d 9e0=2a45 9e1=2a47 9e2+2=2a76 9e6+a=1f98 9f0=2a67 9f1=2a69 9f2+2=1f6b 9f4+6=1d56 " ++
  "9fa=547 9fb=1f6d a01=0/2/c3 a02=0/2/c4 a03=0/2/c5 a05+2=2a84 a07+2=2a89 a09+2=2a81 a0f=2a8b " ++
  "a10=2a86 a13=2a83 a14=2a87 a15+14=2a8f a2a+6=2aa3 a30=2aaa a32=2aab a35=2aac a38+2=2a8c " ++
  "a3c=0/2/c2 a3e+5=2aae a47+2=2ab3 a4b+3=2ab5 a51=2a8e a5c=2aad a66+a=1f98 a70=0/2/c7 a71=0/2/c8 " ++
  "a72=2a88 a73=2a80 a74=2a7f a75=2aa9 a81=0/2/c3 a82=0/2/c4 a83=0/2/c5 a85+7=2ab9 a8c=2ac1 " ++
  "a8d=2ac3 a8f+3=2ac4 a93+a=2ac7 a9d+c=2ad2 aaa+7=2ade ab2=2ae5 ab3=2aeb ab5+5=2ae6 abc=0/2/c2 " ++
  "abd+8=2aec ac5=2af6 ac7+3=2af7 acb+3=2afa ad0=2ab8 ae0=2ac0 ae1=2ac2 ae2+2=2af4 ae6+a=1f98 " ++
  "af0=407 af1=1f6e af9=2ad1 b01=0/2/c3 b02=0/2/c4 b03=0/2/c5 b05+7=2afd b0c=2b05 b0f+2=2b07 " ++
  "b13+16=2b09 b2a+6=2b1f b30=2b26 b32+2=2b27 b35=2b29 b36+4=2b2b b3c=0/2/c2 b3d+8=2b2f b47=2b39 " ++
  "b47,b3e=2b3b b47,b56=2b3a b47,b57=2b3c b4d=2b3d b56+2=2b3e b5f=2b25 b60=2b04 b61=2b06 " ++
  "b62+2=2b37 b66+a=1f98 b70=548 b71=2b2a b72+6=1d5c b82=0/2/c4 b83=2b4d b85+6=2b41 b8e+3=2b47 " ++
  "b92=2b4a b92,bd7=2b4c b93=2b4b b95=2b4e b99+2=2b4f b9c=2b60 b9e+2=2b51 ba3+2=2b53 ba8=2b55 " ++
  "ba9=2b5f baa=2b56 bae+3=2b57 bb1=2b5e bb2=2b5a bb3=2b5d bb4=2b5c bb5=2b5b bb6+4=2b61 " ++
  "bbe+5=2b65 bc6=2b6a bc6,bbe=2b6d bc6,bd7=2b6f bc7=2b6b bc7,bbe=2b6e bc8=2b6c bcd=2b70 bd0=2b40 " ++
  "bd7=2b71 be6+a=1f98 bf0+3=1d68 bf3+6=549 bf9=1f70 bfa=54f c00*2=0/2/c3 c02=0/2/c4 c03=0/2/c5 " ++
  "c05+7=2b72 c0c=2b7a c0e+3=2b7c c12+9=2b7f c1b+2=2b89 c1d+c=2b8c c2a+9=2b98 c33+2=2ba6 " ++
  "c35+5=2ba1 c3d+8=2ba9 c46=2bb3 c46,c56=2bb5 c47=2bb4 c4a+4=2bb6 c55+2=2bba c58=2b88 c59=2b8b " ++
  "c5a=2ba8 c60=2b79 c61=2b7b c62+2=2bb1 c66+a=1f98 c78+4=1f98 c7c+3=1f99 c7f=569 c80=2bf3 " ++
  "c81=0/2/c3 c82=0/2/c4 c83=0/2/c5 c85+7=2bbc c8c=2bc4 c8e+3=2bc6 c92+17=2bc9 caa+9=2be0 " ++
  "cb3=2bee cb5+5=2be9 cbc=0/2/c2 cbd=2bf0 cbe+2=2bf4 cbf,cd5=2bf6 cc1+4=2bf7 cc6=2bfd " ++
  "cc6,cc2=2c00 cc6,cc2,cd5=2c01 cc6,cd5=2bfe cc6,cd6=2bff ccc+2=2c02 cd5+2=2c04 cde=2bef " ++
  "ce0=2bc3 ce1=2bc5 ce2+2=2bfb ce6+a=1f98 cf1+2=2bf1 d01=0/2/c3 d02=0/2/c4 d03=0/2/c5 d05+4=2c06 " ++
  "d09+3=2c0b d0c=2c0f d0e+3=2c11 d12+1f=2c14 d31=2c3b d32=2c33 d33+2=2c39 d35+5=2c34 d3a=2c3c " ++
  "d3d=2c3d d3e+7=2c3f d46=2c48 d46,d3e=2c4b d46,d57=2c4d d47=2c49 d47,d3e=2c4c d48=2c4a d4d=2c4f " ++
  "d4e=2c32/4,2c4f/4 d4f=56a d54=2c30/4,2c4f/4 d55=2c31/4,2c4f/4 d56=2c3a/4,2c4f/4 d57=2c4e " ++
  "d58+7=1d80 d5f=2c0a d60=2c0e d61=2c10 d62+2=2c46 d66+a=1f98 d70+9=1d87 d79=56b " ++
  "d7a=2c25/4,2c4f/4 d7b=2c2a/4,2c4f/4 d7c=2c32/4,2c4f/4 d7d=2c33/4,2c4f/4 d7e=2c39/4,2c4f/4 " ++
  "d7f=2c17/4,2c4f/4 d82=0/2/c4 d83=0/2/c5 d85+12=2c50 d9a+18=2c62 db3+9=2c7a dbd=2c83 dc0+7=2c84 " ++
  "dca=2c9c dcf+6=2c8b dd6=2c91 dd8=2c92 dd9=2c96 dd9,dca=2c97 dd9,dcf=2c99 dd9,dcf,dca=2c9a " ++
  "dd9,ddf=2c9b ddb=2c98 ddf=2c94 de6+a=1f98 df2=2c93 df3=2c95 df4=40a e01+3a=3217 e3f=1f75 " ++
  "e40=3251 e40,e01=3217,3251 e40,e02=3218,3251 e40,e03=3219,3251 e40,e04=321a,3251 " ++
  "e40,e05=321b,3251 e40,e06=321c,3251 e40,e07=321d,3251 e40,e08=321e,3251 e40,e09=321f,3251 " ++
  "e40,e0a=3220,3251 e40,e0b=3221,3251 e40,e0c=3222,3251 e40,e0d=3223,3251 e40,e0e=3224,3251 " ++
  "e40,e0f=3225,3251 e40,e10=3226,3251 e40,e11=3227,3251 e40,e12=3228,3251 e40,e13=3229,3251 " ++
  "e40,e14=322a,3251 e40,e15=322b,3251 e40,e16=322c,3251 e40,e17=322d,3251 e40,e18=322e,3251 " ++
  "e40,e19=322f,3251 e40,e1a=3230,3251 e40,e1b=3231,3251 e40,e1c=3232,3251 e40,e1d=3233,3251 " ++
  "e40,e1e=3234,3251 e40,e1f=3235,3251 e40,e20=3236,3251 e40,e21=3237,3251 e40,e22=3238,3251 " ++
  "e40,e23=3239,3251 e40,e24=323a,3251 e40,e25=323b,3251 e40,e26=323c,3251 e40,e27=323d,3251 " ++
  "e40,e28=323e,3251 e40,e29=323f,3251 e40,e2a=3240,3251 e40,e2b=3241,3251 e40,e2c=3242,3251 " ++
  "e40,e2d=3243,3251 e40,e2e=3244,3251 e41=3252 e41,e01=3217,3252 e41,e02=3218,3252 " ++
  "e41,e03=3219,3252 e41,e04=321a,3252 e41,e05=321b,3252 e41,e06=321c,3252 e41,e07=321d,3252 " ++
  "e41,e08=321e,3252 e41,e09=321f,3252 e41,e0a=3220,3252 e41,e0b=3221,3252 e41,e0c=3222,3252 " ++
  "e41,e0d=3223,3252 e41,e0e=3224,3252 e41,e0f=3225,3252 e41,e10=3226,3252 e41,e11=3227,3252 " ++
  "e41,e12=3228,3252 e41,e13=3229,3252 e41,e14=322a,3252 e41,e15=322b,3252 e41,e16=322c,3252 " ++
  "e41,e17=322d,3252 e41,e18=322e,3252 e41,e19=322f,3252 e41,e1a=3230,3252 e41,e1b=3231,3252 " ++
  "e41,e1c=3232,3252 e41,e1d=3233,3252 e41,e1e=3234,3252 e41,e1f=3235,3252 e41,e20=3236,3252 " ++
  "e41,e21=3237,3252 e41,e22=3238,3252 e41,e23=3239,3252 e41,e24=323a,3252 e41,e25=323b,3252 " ++
  "e41,e26=323c,3252 e41,e27=323d,3252 e41,e28=323e,3252 e41,e29=323f,3252 e41,e2a=3240,3252 " ++
  "e41,e2b=3241,3252 e41,e2c=3242,3252 e41,e2d=3243,3252 e41,e2e=3244,3252 e42=3253 " ++
  "e42,e01=3217,3253 e42,e02=3218,3253 e42,e03=3219,3253 e42,e04=321a,3253 e42,e05=321b,3253 " ++
  "e42,e06=321c,3253 e42,e07=321d,3253 e42,e08=321e,3253 e42,e09=321f,3253 e42,e0a=3220,3253 " ++
  "e42,e0b=3221,3253 e42,e0c=3222,3253 e42,e0d=3223,3253 e42,e0e=3224,3253 e42,e0f=3225,3253 " ++
  "e42,e10=3226,3253 e42,e11=3227,3253 e42,e12=3228,3253 e42,e13=3229,3253 e42,e14=322a,3253 " ++
  "e42,e15=322b,3253 e42,e16=322c,3253 e42,e17=322d,3253 e42,e18=322e,3253 e42,e19=322f,3253 " ++
  "e42,e1a=3230,3253 e42,e1b=3231,3253 e42,e1c=3232,3253 e42,e1d=3233,3253 e42,e1e=3234,3253 " ++
  "e42,e1f=3235,3253 e42,e20=3236,3253 e42,e21=3237,3253 e42,e22=3238,3253 e42,e23=3239,3253 " ++
  "e42,e24=323a,3253 e42,e25=323b,3253 e42,e26=323c,3253 e42,e27=323d,3253 e42,e28=323e,3253 " ++
  "e42,e29=323f,3253 e42,e2a=3240,3253 e42,e2b=3241,3253 e42,e2c=3242,3253 e42,e2d=3243,3253 " ++
  "e42,e2e=3244,3253 e43=3254 e43,e01=3217,3254 e43,e02=3218,3254 e43,e03=3219,3254 " ++
  "e43,e04=321a,3254 e43,e05=321b,3254 e43,e06=321c,3254 e43,e07=321d,3254 e43,e08=321e,3254 " ++
  "e43,e09=321f,3254 e43,e0a=3220,3254 e43,e0b=3221,3254 e43,e0c=3222,3254 e43,e0d=3223,3254 " ++
  "e43,e0e=3224,3254 e43,e0f=3225,3254 e43,e10=3226,3254 e43,e11=3227,3254 e43,e12=3228,3254 " ++
  "e43,e13=3229,3254 e43,e14=322a,3254 e43,e15=322b,3254 e43,e16=322c,3254 e43,e17=322d,3254 " ++
  "e43,e18=322e,3254 e43,e19=322f,3254 e43,e1a=3230,3254 e43,e1b=3231,3254 e43,e1c=3232,3254 " ++
  "e43,e1d=3233,3254 e43,e1e=3234,3254 e43,e1f=3235,3254 e43,e20=3236,3254 e43,e21=3237,3254 " ++
  "e43,e22=3238,3254 e43,e23=3239,3254 e43,e24=323a,3254 e43,e25=323b,3254 e43,e26=323c,3254 " ++
  "e43,e27=323d,3254 e43,e28=323e,3254 e43,e29=323f,3254 e43,e2a=3240,3254 e43,e2b=3241,3254 " ++
  "e43,e2c=3242,3254 e43,e2d=3243,3254 e43,e2e=3244,3254 e44=3255 e44,e01=3217,3255 " ++
  "e44,e02=3218,3255 e44,e03=3219,3255 e44,e04=321a,3255 e44,e05=321b,3255 e44,e06=321c,3255 " ++
  "e44,e07=321d,3255 e44,e08=321e,3255 e44,e09=321f,3255 e44,e0a=3220,3255 e44,e0b=3221,3255 " ++
  "e44,e0c=3222,3255 e44,e0d=3223,3255 e44,e0e=3224,3255 e44,e0f=3225,3255 e44,e10=3226,3255 " ++
  "e44,e11=3227,3255 e44,e12=3228,3255 e44,e13=3229,3255 e44,e14=322a,3255 e44,e15=322b,3255 " ++
  "e44,e16=322c,3255 e44,e17=322d,3255 e44,e18=322e,3255 e44,e19=322f,3255 e44,e1a=3230,3255 " ++
  "e44,e1b=3231,3255 e44,e1c=3232,3255 e44,e1d=3233,3255 e44,e1e=3234,3255 e44,e1f=3235,3255 " ++
  "e44,e20=3236,3255 e44,e21=3237,3255 e44,e22=3238,3255 e44,e23=3239,3255 e44,e24=323a,3255 " ++
  "e44,e25=323b,3255 e44,e26=323c,3255 e44,e27=323d,3255 e44,e28=323e,3255 e44,e29=323f,3255 " ++
  "e44,e2a=3240,3255 e44,e2b=3241,3255 e44,e2c=3242,3255 e44,e2d=3243,3255 e44,e2e=3244,3255 " ++
  "e45=3256 e46=1f49 e47=0/2/d4 e48=0/2/d5 e49=0/2/d6 e4a=0/2/d7 e4b=0/2/d8 e4c=0/2/d9 e4d=0/2/da " ++
  "e4d,e32=3249 e4e=0/2/d3 e4f=40b e50+a=1f98 e5a+2=40c e81+2=3258 e84=325a e87+2=325c e8a=3260 " ++
  "e8d=3264 e94+4=326a e99+7=326f ea1+3=3277 ea5=327a ea7=327b eaa=325f eab=327e ead+d=3280 " ++
  "ebb+3=328e ec0=3291 ec0,e81=3258,3291 ec0,e82=3259,3291 ec0,e84=325a,3291 ec0,e87=325c,3291 " ++
  "ec0,e88=325d,3291 ec0,e8a=3260,3291 ec0,e8d=3264,3291 ec0,e94=326a,3291 ec0,e95=326b,3291 " ++
  "ec0,e96=326c,3291 ec0,e97=326d,3291 ec0,e99=326f,3291 ec0,e9a=3270,3291 ec0,e9b=3271,3291 " ++
  "ec0,e9c=3272,3291 ec0,e9d=3273,3291 ec0,e9e=3274,3291 ec0,e9f=3275,3291 ec0,ea1=3277,3291 " ++
  "ec0,ea2=3278,3291 ec0,ea3=3279,3291 ec0,ea5=327a,3291 ec0,ea7=327b,3291 ec0,eaa=325f,3291 " ++
  "ec0,eab=327e,3291 ec0,ead=3280,3291 ec0,eae=3281,3291 ec0,edc=327e/4,326f/4,3291 " ++
  "ec0,edd=327e/4,3277/4,3291 ec0,ede=3257,3291 ec0,edf=3263,3291 ec1=3292 ec1,e81=3258,3292 " ++
  "ec1,e82=3259,3292 ec1,e84=325a,3292 ec1,e87=325c,3292 ec1,e88=325d,3292 ec1,e8a=3260,3292 " ++
  "ec1,e8d=3264,3292 ec1,e94=326a,3292 ec1,e95=326b,3292 ec1,e96=326c,3292 ec1,e97=326d,3292 " ++
  "ec1,e99=326f,3292 ec1,e9a=3270,3292 ec1,e9b=3271,3292 ec1,e9c=3272,3292 ec1,e9d=3273,3292 " ++
  "ec1,e9e=3274,3292 ec1,e9f=3275,3292 ec1,ea1=3277,3292 ec1,ea2=3278,3292 ec1,ea3=3279,3292 " ++
  "ec1,ea5=327a,3292 ec1,ea7=327b,3292 ec1,eaa=325f,3292 ec1,eab=327e,3292 ec1,ead=3280,3292 " ++
  "ec1,eae=3281,3292 ec1,edc=327e/4,326f/4,3292 ec1,edd=327e/4,3277/4,3292 ec1,ede=3257,3292 " ++
  "ec1,edf=3263,3292 ec2=3293 ec2,e81=3258,3293 ec2,e82=3259,3293 ec2,e84=325a,3293 " ++
  "ec2,e87=325c,3293 ec2,e88=325d,3293 ec2,e8a=3260,3293 ec2,e8d=3264,3293 ec2,e94=326a,3293 " ++
  "ec2,e95=326b,3293 ec2,e96=326c,3293 ec2,e97=326d,3293 ec2,e99=326f,3293 ec2,e9a=3270,3293 " ++
  "ec2,e9b=3271,3293 ec2,e9c=3272,3293 ec2,e9d=3273,3293 ec2,e9e=3274,3293 ec2,e9f=3275,3293 " ++
  "ec2,ea1=3277,3293 ec2,ea2=3278,3293 ec2,ea3=3279,3293 ec2,ea5=327a,3293 ec2,ea7=327b,3293 " ++
  "ec2,eaa=325f,3293 ec2,eab=327e,3293 ec2,ead=3280,3293 ec2,eae=3281,3293 " ++
  "ec2,edc=327e/4,326f/4,3293 ec2,edd=327e/4,3277/4,3293 ec2,ede=3257,3293 ec2,edf=3263,3293 " ++
  "ec3=3294 ec3,e81=3258,3294 ec3,e82=3259,3294 ec3,e84=325a,3294 ec3,e87=325c,3294 " ++
  "ec3,e88=325d,3294 ec3,e8a=3260,3294 ec3,e8d=3264,3294 ec3,e94=326a,3294 ec3,e95=326b,3294 " ++
  "ec3,e96=326c,3294 ec3,e97=326d,3294 ec3,e99=326f,3294 ec3,e9a=3270,3294 ec3,e9b=3271,3294 " ++
  "ec3,e9c=3272,3294 ec3,e9d=3273,3294 ec3,e9e=3274,3294 ec3,e9f=3275,3294 ec3,ea1=3277,3294 " ++
  "ec3,ea2=3278,3294 ec3,ea3=3279,3294 ec3,ea5=327a,3294 ec3,ea7=327b,3294 ec3,eaa=325f,3294 " ++
  "ec3,eab=327e,3294 ec3,ead=3280,3294 ec3,eae=3281,3294 ec3,edc=327e/4,326f/4,3294 " ++
  "ec3,edd=327e/4,3277/4,3294 ec3,ede=3257,3294 ec3,edf=3263,3294 ec4=3295 ec4,e81=3258,3295 " ++
  "ec4,e82=3259,3295 ec4,e84=325a,3295 ec4,e87=325c,3295 ec4,e88=325d,3295 ec4,e8a=3260,3295 " ++
  "ec4,e8d=3264,3295 ec4,e94=326a,3295 ec4,e95=326b,3295 ec4,e96=326c,3295 ec4,e97=326d,3295 " ++
  "ec4,e99=326f,3295 ec4,e9a=3270,3295 ec4,e9b=3271,3295 ec4,e9c=3272,3295 ec4,e9d=3273,3295 " ++
  "ec4,e9e=3274,3295 ec4,e9f=3275,3295 ec4,ea1=3277,3295 ec4,ea2=3278,3295 ec4,ea3=3279,3295 " ++
  "ec4,ea5=327a,3295 ec4,ea7=327b,3295 ec4,eaa=325f,3295 ec4,eab=327e,3295 ec4,ead=3280,3295 " ++
  "ec4,eae=3281,3295 ec4,edc=327e/4,326f/4,3295 ec4,edd=327e/4,3277/4,3295 ec4,ede=3257,3295 " ++
  "ec4,edf=3263,3295 ec6=1f4a ec8=0/2/db ec9=0/2/dc eca=0/2/dd ecb=0/2/de ecc=0/2/df ecd=0/2/e0 " ++
  "ecd,eb2=3286 ed0+a=1f98 edc=327e/4,326f/4 edd=327e/4,3277/4 ede=3257 edf=3263 " ++
  "f00=331f/4,3336/4,0/4/c4 f01+3=573 f04+7=410 f0b=419 f0c=419/1b f0d+6=41a f13=576 f14=25f " ++
  "f15+3=577 f18*2=0/0/0 f1a+6=57a f20+a=1f98 f2a+9=1f99/4 f33=1f98/4 f34=580 f35=0/0/0 f36=581 " ++
  "f37=0/0/0 f38=582 f39=0/2/e3 f3a+4=32e f3e*2=0/0/0 f40=32d9 f41=32dc f42=32de f44=32e0 " ++
  "f45=32e2 f46=32e4 f47=32e6 f49=32e8 f4a=32ea f4b=32ec f4c=32ee f4e=32f0 f4f=32f2 f50=32f4 " ++
  "f51=32f6 f53=32f8 f54=32fa f55=32fc f56=32fe f58=3300 f59=3302 f5a=3304 f5b=3306 f5d=3308 " ++
  "f5e=330a f5f=330c f60=330e f61=3310 f62=3312 f63=3315 f64=3317 f65=3319 f66=331b f67=331d " ++
  "f68=331f f6a=3312/4,0/4/119 f6b=32db f6c=3314 f71=3329 f71,f72=332b f71,f74=332f f71,f80=332d " ++
  "f72=332a f74=332e f77=3331 f79+5=3333 f7e=0/2/c4 f7f=0/2/c5 f80=332c f82*2=0/0/0 f84=3338 " ++
  "f85=420 f86*2=0/0/0 f88=3321 f89=3323 f8a+2=3327 f8c=3325 f8d=3322 f8e=3324 f8f=3326 f90=32da " ++
  "f91=32dd f92=32df f94=32e1 f95=32e3 f96=32e5 f97=32e7 f99=32e9 f9a=32eb f9b=32ed f9c=32ef " ++
  "f9e=32f1 f9f=32f3 fa0=32f5 fa1=32f7 fa3=32f9 fa4=32fb fa5=32fd fa6=32ff fa8=3301 fa9=3303 " ++
  "faa=3305 fab=3307 fad=3309 fae=330b faf=330d fb0=330f fb1=3311 fb2=3313 fb2,f71,f80=3331 " ++
  "fb2,f80=3330 fb3=3316 fb3,f71,f80=3333 fb3,f80=3332 fb4=3318 fb5=331a fb6=331c fb7=331e " ++
  "fb8=3320 fba=3309/4,0/4/119 fbb=3311/4,0/4/119 fbc=3313/4,0/4/119 fbe+8=583 fc6=0/0/0 " ++
  "fc7+6=58b fce+2=591 fd0+2=417 fd2+3=421 fd5+4=593 fd9+2=424 1000=356c 1001=356e 1002=3570 " ++
  "1003=3574 1004=3577 1005=3579 1006=357c 1007=3580 1008=3585 1009=358c 100a+2=3590 100c=3593 " ++
  "100d=3595 100e=3598 100f=359b 1010+3=359f 1013=35a4 1014=35a7 1015+2=35ab 1017=35b2 1018=35b5 " ++
  "1019=35b8 101a=35ba 101b=35bc 101c=35c0 101d=35c2 101e=35c9 101f=35cb 1020=35d1 1021+5=35d8 " ++
  "1025,102e=35dd 1027+4=35e2 102b=35e6/4 102c=35e6 102d=35ea 102e=35ec 102f=35ee 1030=35f1 " ++
  "1031=35f6 1032=35fa 1033=35ed 1034=35fc 1035=35f8 1036=0/2/c4 1037=0/2/e7 1038=0/2/c5 " ++
  "1039+2=3602 103b=35bb 103c=35bf 103d=35c3 103e=35ce 103f=35c9/4,3602/4,35c9/4 1040+a=1f98 " ++
  "104a+2=2a1 104c+4=43b 1050+2=35c6 1052+4=35de 1056+4=35f2 105a=3578 105b=3586 105c+2=35d3 " ++
  "105e=35aa 105f=35b9 1060=35c1 1061=358a 1062=35fd 1063+2=3604 1065=35c8 1066=35d7 1067+2=35fe " ++
  "1069+5=3606 106e=359c 106f+2=35d5 1071=35eb 1072=35e8 1073+2=35ef 1075=356d 1076=356f " ++
  "1077=3571 1078=357a 1079=3583 107a=358d 107b=35a2 107c=35a8 107d+2=35ad 107f=35b3 1080=35c5 " ++
  "1081=35cc 1082=35c4 1083=35e7 1084=35f7 1085=35f9 1086=3601 1087=360b 1088=360d 1089+2=3610 " ++
  "108b=360c 108c+2=360e 108e=35b0 108f=3612 1090+a=1f98 109a+2=3613 109c=35e9 109d=35fb " ++
  "109e+2=599 10a0=25a0/8 10a1=25a2/8 10a2=25a4/8 10a3=25a6/8 10a4=25a8/8 10a5=25aa/8 10a6=25ac/8 " ++
  "10a7=25b0/8 10a8=25b2/8 10a9=25b4/8 10aa=25b6/8 10ab=25b8/8 10ac=25ba/8 10ad=25be/8 " ++
  "10ae=25c0/8 10af=25c2/8 10b0=25c4/8 10b1=25c6/8 10b2=25c8/8 10b3=25cc/8 10b4=25ce/8 " ++
  "10b5=25d0/8 10b6=25d2/8 10b7=25d4/8 10b8=25d6/8 10b9=25d8/8 10ba=25da/8 10bb=25dc/8 " ++
  "10bc=25de/8 10bd=25e0/8 10be=25e2/8 10bf=25e6/8 10c0=25e8/8 10c1=25ae/8 10c2=25bc/8 " ++
  "10c3=25ca/8 10c4=25e4/8 10c5=25ea/8 10c7=25ed/8 10cd=25f2/8 10d0=259f 10d1=25a1 10d2=25a3 " ++
  "10d3=25a5 10d4=25a7 10d5=25a9 10d6=25ab 10d7=25af 10d8=25b1 10d9=25b3 10da=25b5 10db=25b7 " ++
  "10dc=25b9 10dd=25bd 10de=25bf 10df=25c1 10e0=25c3 10e1=25c5 10e2=25c7 10e3=25cb 10e4=25cd " ++
  "10e5=25cf 10e6=25d1 10e7=25d3 10e8=25d5 10e9=25d7 10ea=25d9 10eb=25db 10ec=25dd 10ed=25df " ++
  "10ee=25e1 10ef=25e5 10f0=25e7 10f1=25ad 10f2=25bb 10f3=25c9 10f4=25e3 10f5=25e9 10f6+2=25eb " ++
  "10f8+3=25ee 10fb=2cf 10fc=25b9/14 10fd=25f1 10fe+2=25f3"

/-- Elements: Georgian, Hangul letters, Ethiopic, and the scripts up to the phonetic extensions. -/
def jamoToPhonetic : String :=
  "1100+5f=4175 115f+49=41f1 11a8+58=4251 1200+10=2812 1210+10=2823 1220+10=2838 1230+8=2849 " ++
  "1238+8=2858 1240+9=2861 124a+4=286a 1250+7=286e 1258=2875 125a+4=2876 1260+8=287a 1268+10=2887 " ++
  "1278+8=2898 1280+9=28a1 128a+4=28aa 1290+8=28ae 1298+8=28b7 12a0+8=28c0 12a8+9=28c9 " ++
  "12b2+4=28d2 12b8+7=28d6 12c0=28dd 12c2+4=28de 12c8+f=28e2 12d8+8=28f1 12e0+18=2900 12f8+8=291f " ++
  "1300+8=2928 1308+9=2931 1312+4=293a 1318+8=293e 1320+8=294a 1328+8=2953 1330+8=2963 " ++
  "1338+8=296c 1340+10=297b 1350+8=298f 1358+3=299c 135d=0/2/b5 135e=0/2/b4 135f=0/2/b3 1360=2d0 " ++
  "1361=258 1362=283 1363+4=259 1367=273 1368=2d1 1369+9=1f99 1372+b=1d90 1380+4=2833 1384+4=2882 " ++
  "1388+4=298b 138c+4=2997 1390+a=4fa 13a0+56=38de/8 13f8+6=392e 1400=20f 1401+17b=3958 157c=3b05 " ++
  "157d=3ad3 157e+10=3ad5 158e+8=3ae6 1596+11=3af4 15a7+c6=3b06 166d=597 166e=286 166f=3ad4 " ++
  "1670=3ae5 1671+6=3aee 1677+9=3bcc 1680=209/4 1681+1a=3c1b 169b+2=332 16a0=3c35 " ++
  "16a1=3c35/4,0/4/118 16a2=3c36 16a3=3c5a 16a4=3c36/4,0/4/118 16a5=3c36/4,0/4/119 16a6=3c37 " ++
  "16a7=3c37/4,0/4/118 16a8=3c38 16a9=3c38/4,0/4/118 16aa=3c56 16ab=3c58 16ac=3c38/4,0/4/119 " ++
  "16ad=3c38/4,0/4/11a 16ae=3c38/4,0/4/11b 16af+4=3c3a 16b3=3c3d/4,0/4/118 16b4=3c3d/4,0/4/119 " ++
  "16b5=3c3d/4,0/4/11a 16b6=3c3d/4,0/4/11b 16b7=3c3f 16b8=3c5d 16b9+2=3c40 16bb=3c41/4,0/4/118 " ++
  "16bc=3c41/4,0/4/119 16bd=3c41/4,0/4/11a 16be=3c42 16bf=3c42/4,0/4/118 16c0=3c42/4,0/4/119 " ++
  "16c1=3c43 16c2=3c43/4,0/4/118 16c3=3c45 16c4=3c45/4,0/4/118 16c5=3c46 16c6=3c46/4,0/4/118 " ++
  "16c7+4=3c47 16cb=3c4a/4,0/4/118 16cc=3c4a/4,0/4/11a 16cd=3c4a/4,0/4/11b 16ce=3c4a/4,0/4/11c " ++
  "16cf=3c4c 16d0=3c4c/4,0/4/118 16d1=3c4c/4,0/4/119 16d2=3c4d 16d3=3c4d/4,0/4/118 " ++
  "16d4=3c4d/4,0/4/119 16d5=3c48/4,0/4/118 16d6=3c4e 16d7=3c50 16d8=3c50/4,0/4/118 " ++
  "16d9=3c50/4,0/4/119 16da=3c51 16db=3c51/4,0/4/118 16dc=3c52 16dd=3c52/4,0/4/118 16de+2=3c53 " ++
  "16e0=3c5b 16e1+2=3c5f 16e3=3c5c 16e4=3c5e 16e5+2=3c61 16e7=3c62/4,0/4/118 16e8=3c62/4,0/4/119 " ++
  "16e9=3c40/4,0/4/118 16ea=3c4a/4,0/4/119 16eb+3=263 16ee=3c46/4,3c51/4 " ++
  "16ef=3c50/4,0/4/118,3c50/4,0/4/118 16f0=3c37/4,3c37/4 16f1=3c3e 16f2=3c4b 16f3=3c55 16f4=3c39 " ++
  "16f5=3c44 16f6=3c4f 16f7=3c57 16f8=3c59 1700+d=3486 170e+7=3493 1720+15=349a 1735+2=29e " ++
  "1740+14=34af 1760+d=34c3 176e+3=34d0 1772+2=34d3 1780+23=3675 17a3+11=3699 17b4*2=0/0/0 " ++
  "17b6+10=36aa 17c6=0/2/c4 17c7=0/2/c5 17c8=0/2/e8 17c9=0/2/e9 17ca=0/2/ea 17cb*7=0/2/33 " ++
  "17d2=36ba 17d3=0/0/0 17d4+2=2a3 17d6=260 17d7=1f4b 17d8+3=43f 17db=1f76 17dc=3698 17dd=0/2/33 " ++
  "17e0+a=1f98 17f0+a=1f98 1800=3f2 1801=27f 1802=230 1803=284 1804+2=25d 1806+2=211 1808=231 " ++
  "1809=285 180a*5=0/0/0 1810+a=1f98 1820=383e 1821=3840 1822=3843 1823=3849 1824=384b 1825=384e " ++
  "1826=3850 1827+3=3853 182a=385a 182b=385c 182c=385f 182d=3861 182e=3866 182f+3=3868 1832=3871 " ++
  "1833=3874 1834=3877 1835=387d 1836=3881 1837=3884 1838=3886 1839=3888 183a=388b 183b+2=3890 " ++
  "183d=3894 183e=3898 183f+4=389b 1843=383d 1844=3841 1845=3844 1846=384a 1847=384c 1848=384f " ++
  "1849=3851 184a=3856 184b=385b 184c=385d 184d=3860 184e=3862 184f=3867 1850=3872 1851=3875 " ++
  "1852=3878 1853=387e 1854=3892 1855=3882 1856=3887 1857=388c 1858=3896 1859=3899 185a+2=389f " ++
  "185c=387b 185d=3842 185e=3845 185f=3848 1860=3852 1861=384d 1862=3857 1863=388d 1864=3863 " ++
  "1865=3865 1866=385e 1867=386b 1868=3873 1869=3876 186a=387f 186b=3889 186c=3897 186d=389a " ++
  "186e=3893 186f=3895 1870=38a1 1871=3879 1872=3883 1873=3846 1874=388e 1875=3885 1876=388a " ++
  "1877=3880 1880+7=3836 1887=383f 1888=3847 1889=388f 188a=3858 188b=387c 188c=38a2 188d+2=38a4 " ++
  "188f+2=38a7 1891=38ab 1892+2=38ad 1894=38b0 1895=38b2 1896+2=38b4 1898=38a9 1899=38b3 " ++
  "189a=3864 189b=3859 189c+2=386c 189e=38a3 189f=38a6 18a0=38aa 18a1=38ac 18a2=386e 18a3=38b1 " ++
  "18a4+2=386f 18a6+2=38b6 18a8=38af 18a9=38b9 18aa=38b8 18b0+46=3bd5 1900+1d=3454 " ++
  "191d=345c/4,347a/4 191e=345f/4,347b/4 1920+c=3471 1930+9=347d 1939=0/2/f3 193a=0/2/f4 " ++
  "193b=0/2/f5 1940=598 1944=26b 1945=274 1946+a=1f98 1950+1e=36bb 1970+5=36d9 1980+2c=36de " ++
  "19b0+6=370a 19b5,1980=36de,370f 19b5,1981=36df,370f 19b5,1982=36e0,370f 19b5,1983=36e1,370f " ++
  "19b5,1984=36e2,370f 19b5,1985=36e3,370f 19b5,1986=36e4,370f 19b5,1987=36e5,370f " ++
  "19b5,1988=36e6,370f 19b5,1989=36e7,370f 19b5,198a=36e8,370f 19b5,198b=36e9,370f " ++
  "19b5,198c=36ea,370f 19b5,198d=36eb,370f 19b5,198e=36ec,370f 19b5,198f=36ed,370f " ++
  "19b5,1990=36ee,370f 19b5,1991=36ef,370f 19b5,1992=36f0,370f 19b5,1993=36f1,370f " ++
  "19b5,1994=36f2,370f 19b5,1995=36f3,370f 19b5,1996=36f4,370f 19b5,1997=36f5,370f " ++
  "19b5,1998=36f6,370f 19b5,1999=36f7,370f 19b5,199a=36f8,370f 19b5,199b=36f9,370f " ++
  "19b5,199c=36fa,370f 19b5,199d=36fb,370f 19b5,199e=36fc,370f 19b5,199f=36fd,370f " ++
  "19b5,19a0=36fe,370f 19b5,19a1=36ff,370f 19b5,19a2=3700,370f 19b5,19a3=3701,370f " ++
  "19b5,19a4=3702,370f 19b5,19a5=3703,370f 19b5,19a6=3704,370f 19b5,19a7=3705,370f " ++
  "19b5,19a8=3706,370f 19b5,19a9=3707,370f 19b5,19aa=3708,370f 19b5,19ab=3709,370f 19b6=3710 " ++
  "19b6,1980=36de,3710 19b6,1981=36df,3710 19b6,1982=36e0,3710 19b6,1983=36e1,3710 " ++
  "19b6,1984=36e2,3710 19b6,1985=36e3,3710 19b6,1986=36e4,3710 19b6,1987=36e5,3710 " ++
  "19b6,1988=36e6,3710 19b6,1989=36e7,3710 19b6,198a=36e8,3710 19b6,198b=36e9,3710 " ++
  "19b6,198c=36ea,3710 19b6,198d=36eb,3710 19b6,198e=36ec,3710 19b6,198f=36ed,3710 " ++
  "19b6,1990=36ee,3710 19b6,1991=36ef,3710 19b6,1992=36f0,3710 19b6,1993=36f1,3710 " ++
  "19b6,1994=36f2,3710 19b6,1995=36f3,3710 19b6,1996=36f4,3710 19b6,1997=36f5,3710 " ++
  "19b6,1998=36f6,3710 19b6,1999=36f7,3710 19b6,199a=36f8,3710 19b6,199b=36f9,3710 " ++
  "19b6,199c=36fa,3710 19b6,199d=36fb,3710 19b6,199e=36fc,3710 19b6,199f=36fd,3710 " ++
  "19b6,19a0=36fe,3710 19b6,19a1=36ff,3710 19b6,19a2=3700,3710 19b6,19a3=3701,3710 " ++
  "19b6,19a4=3702,3710 19b6,19a5=3703,3710 19b6,19a6=3704,3710 19b6,19a7=3705,3710 " ++
  "19b6,19a8=3706,3710 19b6,19a9=3707,3710 19b6,19aa=3708,3710 19b6,19ab=3709,3710 19b7=3711 " ++
  "19b7,1980=36de,3711 19b7,1981=36df,3711 19b7,1982=36e0,3711 19b7,1983=36e1,3711 " ++
  "19b7,1984=36e2,3711 19b7,1985=36e3,3711 19b7,1986=36e4,3711 19b7,1987=36e5,3711 " ++
  "19b7,1988=36e6,3711 19b7,1989=36e7,3711 19b7,198a=36e8,3711 19b7,198b=36e9,3711 " ++
  "19b7,198c=36ea,3711 19b7,198d=36eb,3711 19b7,198e=36ec,3711 19b7,198f=36ed,3711 " ++
  "19b7,1990=36ee,3711 19b7,1991=36ef,3711 19b7,1992=36f0,3711 19b7,1993=36f1,3711 " ++
  "19b7,1994=36f2,3711 19b7,1995=36f3,3711 19b7,1996=36f4,3711 19b7,1997=36f5,3711 " ++
  "19b7,1998=36f6,3711 19b7,1999=36f7,3711 19b7,199a=36f8,3711 19b7,199b=36f9,3711 " ++
  "19b7,199c=36fa,3711 19b7,199d=36fb,3711 19b7,199e=36fc,3711 19b7,199f=36fd,3711 " ++
  "19b7,19a0=36fe,3711 19b7,19a1=36ff,3711 19b7,19a2=3700,3711 19b7,19a3=3701,3711 " ++
  "19b7,19a4=3702,3711 19b7,19a5=3703,3711 19b7,19a6=3704,3711 19b7,19a7=3705,3711 " ++
  "19b7,19a8=3706,3711 19b7,19a9=3707,3711 19b7,19aa=3708,3711 19b7,19ab=3709,3711 19b8+3=3712 " ++
  "19ba,1980=36de,3714 19ba,1981=36df,3714 19ba,1982=36e0,3714 19ba,1983=36e1,3714 " ++
  "19ba,1984=36e2,3714 19ba,1985=36e3,3714 19ba,1986=36e4,3714 19ba,1987=36e5,3714 " ++
  "19ba,1988=36e6,3714 19ba,1989=36e7,3714 19ba,198a=36e8,3714 19ba,198b=36e9,3714 " ++
  "19ba,198c=36ea,3714 19ba,198d=36eb,3714 19ba,198e=36ec,3714 19ba,198f=36ed,3714 " ++
  "19ba,1990=36ee,3714 19ba,1991=36ef,3714 19ba,1992=36f0,3714 19ba,1993=36f1,3714 " ++
  "19ba,1994=36f2,3714 19ba,1995=36f3,3714 19ba,1996=36f4,3714 19ba,1997=36f5,3714 " ++
  "19ba,1998=36f6,3714 19ba,1999=36f7,3714 19ba,199a=36f8,3714 19ba,199b=36f9,3714 " ++
  "19ba,199c=36fa,3714 19ba,199d=36fb,3714 19ba,199e=36fc,3714 19ba,199f=36fd,3714 " ++
  "19ba,19a0=36fe,3714 19ba,19a1=36ff,3714 19ba,19a2=3700,3714 19ba,19a3=3701,3714 " ++
  "19ba,19a4=3702,3714 19ba,19a5=3703,3714 19ba,19a6=3704,3714 19ba,19a7=3705,3714 " ++
  "19ba,19a8=3706,3714 19ba,19a9=3707,3714 19ba,19aa=3708,3714 19ba,19ab=3709,3714 19bb+f=3715 " ++
  "19d0+a=1f98 19da=1f99 19de=36fa/4,3710/4 19df=36fa/4,3710/4,371b/4 19e0+20=59f 1a00+1c=34d5 " ++
  "1a1e+2=2d2 1a20+2d=3724 1a4d+6=3759 1a53=3751 1a54=374a/4,3770/4,374a/4 1a55+3=3753 " ++
  "1a58*2=372a/4 1a5a*2=373f/4 1a5c+3=3756 1a60=3770 1a61=375f 1a62+2=3761 1a64=3762/4 " ++
  "1a65+6=3763 1a6b=3752 1a6c=3760 1a6d=376f 1a6e+2=3769 1a70+3=376c 1a73=376b 1a74=0/2/c4 " ++
  "1a75=0/2/eb 1a76=0/2/ec 1a77=0/2/ed 1a78=0/2/ee 1a79=0/2/ef 1a7a=0/2/f0 1a7b=0/2/f1 " ++
  "1a7c=0/2/f2 1a7f=0/0/0 1a80+a=1f98 1a90+a=1f98 1aa0+7=442 1aa7=1f4c 1aa8+4=2a5 1aac+2=449 " ++
  "1ab0*5=0/2/33 1ab5*6=0/2/34 1abb*2=0/2/33 1abd=0/2/34 1abe=0/2/36 1b00*2=0/2/c3 1b02=0/2/c4 " ++
  "1b03=0/2/c9 1b04=0/2/c5 1b05=37b6 1b05,1b35=37b7 1b07=37b8 1b07,1b35=37b9 1b09=37ba " ++
  "1b09,1b35=37bb 1b0b=37bc 1b0b,1b35=37bd 1b0d=37be 1b0d,1b35=37bf 1b0f+3=37c0 1b11,1b35=37c3 " ++
  "1b13=37c4 1b14+f=37c7 1b23+5=37d7 1b28+8=37dd 1b30+3=37e6 1b33=37eb 1b34=0/2/c2 1b35+6=37ec " ++
  "1b3a,1b35=37f2 1b3c=37f3 1b3c,1b35=37f4 1b3e=37f5 1b3e,1b35=37f7 1b3f=37f6 1b3f,1b35=37f8 " ++
  "1b42=37f9 1b42,1b35=37fa 1b44=37fb 1b45+2=37c5 1b47=37d6 1b48=37dc 1b49=37e5 1b4a+2=37e9 " ++
  "1b50+a=1f98 1b5a+2=2d4 1b5c=287 1b5d=261 1b5e+2=2a9 1b60=210 1b61+a=5bf 1b6b*9=0/0/0 " ++
  "1b74+9=5c9 1b80=0/2/c4 1b81=0/2/cb 1b82=0/2/c5 1b83+8=313a 1b8b+e=3143 1b99=3152 1b9a=3154 " ++
  "1b9b=3156 1b9c=3159 1b9d=315c 1b9e+2=315e 1ba0=3161 1ba1=3155 1ba2=3157 1ba3=315a 1ba4+8=3162 " ++
  "1bac=3153 1bad=315d 1bae=3142 1baf=3160 1bb0+a=1f98 1bba=313a/4 1bbb=3158 1bbc=315b 1bbd=3151 " ++
  "1bbe=3141/19 1bbf=3152/19 1bc0=3508 1bc1=3508/4 1bc2=3509 1bc3*2=3509/4 1bc5=350a 1bc6=350a/4 " ++
  "1bc7=350b 1bc8=350b/4 1bc9=350c 1bca=350c/4 1bcb=350d 1bcc*2=350d/4 1bce=350e 1bcf=350e/4 " ++
  "1bd0+3=350f 1bd3=3511/4 1bd4=3512 1bd5=3512/4 1bd6=3513 1bd7=3513/4 1bd8=3514 1bd9*2=3514/4 " ++
  "1bdb=3515 1bdc=3515/4 1bdd+2=3516 1bdf=3517/4 1be0+6=3518 1be6=0/2/c2 1be7=351e 1be8=351e/4 " ++
  "1be9+2=351f 1beb=3520/4 1bec=3521 1bed=3521/4 1bee=3522 1bef=3522/4 1bf0+4=3523 1bfc+4=456 " ++
  "1c00+a=33e6 1c0a+11=33f3 1c1b=3405 1c1c+8=3407 1c24=3404 1c25=3406 1c26+10=3410 1c36=340f " ++
  "1c37=0/2/c2 1c3b+2=29a 1c3d+3=438 1c40+a=1f98 1c4d+3=33f0 1c50+a=1f98 1c5a+24=38ba 1c7e+2=2cb " ++
  "1c80=2397/4 1c81=23af/4 1c82=244c/4 1c83=246a/4 1c84*2=2473/4 1c86=24f4/4 1c87=2505/4 " ++
  "1c88=248e/4 1cc0+8=44b 1cd0*19=0/0/0 1ce9=2a1e 1cea*3=2a1e/4 1ced=0/2/c4 1cee*4=2a1e/4 " ++
  "1cf2*2=0/2/c5 1cf4=0/0/0 1cf5+2=2a1f 1cf8*2=0/0/0 1d00=1fa6 1d01+2=1faa 1d03=1fc9 1d04=1fda " ++
  "1d05+2=1fef 1d07=200b 1d08=2031 1d09=209e 1d0a=20b3 1d0b=20c8 1d0c=20df 1d0d=210d 1d0e=2121 " ++
  "1d0f=2140 1d10=2153 1d11=2141 1d12=2154 1d13=214d 1d14=2147 1d15=216a 1d16+2=2159 1d18=216f " ++
  "1d19=219e 1d1a=21a8 1d1b=21fb 1d1c=221b 1d1d+2=221d 1d1f=223d 1d20=224b 1d21=225d 1d22=228a " ++
  "1d23=22a7 1d24+2=22ef 1d26=2321 1d27=232f 1d28=2335 1d29=233a 1d2a=2345 1d2b=2419 1d2c=1fa2/1d " ++
  "1d2d=1fa2/14,0/14/118,2007/14 1d2e=1fbc/1d 1d2f=1fc8 1d30=1feb/1d 1d31=2007/1d 1d32=2015/1d " ++
  "1d33=2051/1d 1d34=2075/1d 1d35=2090/1d 1d36=20ab/1d 1d37=20c4/1d 1d38=20d6/1d 1d39=2109/1d " ++
  "1d3a=2118/1d 1d3b=2120 1d3c=213c/1d 1d3d=2166/1d 1d3e=216b/1d 1d3f=2193/1d 1d40=21f7/1d " ++
  "1d41=2217/1d 1d42=2259/1d 1d43=1fa2/14 1d44=1fad/14 1d45=1fb1/14 1d46=1fab/14 1d47=1fbc/14 " ++
  "1d48=1feb/14 1d49=2007/14 1d4a=201a/14 1d4b=201f/14 1d4c=2031/14 1d4d=2051/14 1d4e=209e/14 " ++
  "1d4f=20c4/14 1d50=2109/14 1d51=2137/14 1d52=213c/14 1d53=214f/14 1d54+2=2159/14 1d56=216b/14 " ++
  "1d57=21f7/14 1d58=2217/14 1d59=221d/14 1d5a=2238/14 1d5b=2247/14 1d5c=22f0/14 1d5d+2=231f/14 " ++
  "1d5f=2322/14 1d60+2=2342/14 1d62=2090/15 1d63=2193/15 1d64=2217/15 1d65=2247/15 1d66+2=231f/15 " ++
  "1d68=2339/15 1d69+2=2342/15 1d6b=221f 1d6c=1fca 1d6d=1ff2 1d6e=2049 1d6f=210e 1d70=2122 " ++
  "1d71=2172 1d72=21a3 1d73=21c0 1d74=21d8 1d75=2201 1d76=228f 1d77=206b 1d78=2431/14 " ++
  "1d79=2051/4,0/4/119 1d7a=21f7/4,0/4/118,2075/4 1d7b=20a3 1d7c=20aa 1d7d=2170 1d7e=2228 " ++
  "1d7f=2246 1d80=1fcc 1d81=1ff3 1d82=204a 1d83=2062 1d84=20c9 1d85=20f1 1d86=210f 1d87=212c " ++
  "1d88=2173 1d89=21ad 1d8a=21d9 1d8b=21e9 1d8c=224d 1d8d=2268 1d8e=2290 1d8f=1fa8 1d90=1fb6 " ++
  "1d91=1ffc 1d92=2012 1d93=2023 1d94=2030 1d95=201e 1d96=20a4 1d97=2156 1d98=21f2 1d99=2229 " ++
  "1d9a=22ac 1d9b=1fb7/14 1d9c=1fd6/14 1d9d=1fe5/14 1d9e=1feb/14,0/14/118 1d9f=202c/14 " ++
  "1da0=2042/14 1da1=20bc/14 1da2=2055/14 1da3=222c/14 1da4=209f/14 1da5=20a6/14 1da6=2098/14 " ++
  "1da7=20a3/14 1da8=20b8/14 1da9=20f2/14 1daa=20f1/14 1dab=20da/14 1dac=2110/14 1dad=223e/14 " ++
  "1dae=2123/14 1daf=212d/14 1db0=211c/14 1db1=215c/14 1db2=217b/14 1db3=21da/14 1db4=21e4/14 " ++
  "1db5=2202/14 1db6=2222/14 1db7=2242/14 1db8=221b/14 1db9=224e/14 1dba=2255/14 1dbb=2286/14 " ++
  "1dbc=2295/14 1dbd=2299/14 1dbe=22a3/14 1dbf=232a/14 1dc0*2=0/2/33 1dc2=0/2/34 1dc3*7=0/2/33 " ++
  "1dca=2193/4 1dcb*4=0/2/33 1dcf*2=0/2/34 1dd1=0/2/33 1dd2=22c5/4 1dd3=1fa2/4,0/4/118 " ++
  "1dd4=1fa2/4,0/4/118,2007/4 1dd5=1fa2/4,213c/4 1dd6=1fa2/4,2247/4 1dd7=1fd6/4,0/4/30 " ++
  "1dd8=1feb/4,0/4/119 1dd9=1feb/4,0/4/118 1dda=2051/4 1ddb=205a/4 1ddc=20c4/4 1ddd=20d6/4 " ++
  "1dde=20da/4 1ddf=210d/4 1de0=2118/4 1de1=211c/4 1de2=2198/4 1de3=219d/4 1de4=21d2/4 " ++
  "1de5=21d2/4,0/4/119 1de6=2286/4 1de7=1fb1/4 1de8=1fbc/4 1de9=1fd5/4 1dea=201a/4 1deb=2042/4 " ++
  "1dec=20ea/4 1ded=213c/4,0/4/34 1dee=216b/4 1def=21e4/4 1df0=2217/4,0/4/34 1df1=2259/4 " ++
  "1df2=1fa2/4,0/4/2b 1df3=213c/4,0/4/2b 1df4=2217/4,0/4/2b 1df5=0/2/33 1dfb=0/2/33 1dfc*2=0/2/34 " ++
  "1dfe=0/2/33 1dff=0/2/34"

/-- Elements: more Latin and Greek, punctuation, symbols. -/
def punctuationAndSymbols : String :=
  "1e9a=1fa2/4,22e5/4 1e9c+2=21e2 1e9e=21d2/a,0/4/118,21d2/a 1e9f=2006 1efa=20d6/a,20d6/a " ++
  "1efb=20d6/4,20d6/4 1efc=2254/8 1efd=2254 1efe=2280/8 1eff=2280 1fbd=4c0 1fbf=4c0 1fc0=4c2 " ++
  "1ffe=4c1 2002*5=209/4 2007=209/1b 2008*3=209/4 200b*5=0/0/0 2010=213 2011=213/1b 2012+4=214 " ++
  "2016=394 2017=20c 2018+4=317 201c+4=31e 2020+2=3b3 2022+2=3b9 2024=27e/4 2025=27e/4,27e/4 " ++
  "2026=27e/4,27e/4,27e/4 2027=3bb 2028+2=207 202a*5=0/0/0 202f=209/1b 2030=3af 2031=3b1 2032=3bf " ++
  "2033=3bf/4,3bf/4 2034=3bf/4,3bf/4,3bf/4 2035=3c0 2036=3c0/4,3c0/4 2037=3c0/4,3c0/4,3c0/4 " ++
  "2038=3c3 2039+2=31b 203b=3c4 203c=267/4,267/4 203d=27c 203e=20a 203f=3c5 2040=3c7 2041+2=3c9 " ++
  "2043=3bc 2044=676 2045+2=334 2047=26d/4,26d/4 2048=26d/4,267/4 2049=267/4,26d/4 204a=3aa " ++
  "204b=39d 204c+2=3bd 204e=3a2 204f=23c 2050=3c8 2051=3a3 2052=672 2053=21a 2054=3c6 2055+2=2f9 " ++
  "2057=3bf/4,3bf/4,3bf/4,3bf/4 2058+7=2fb 205f=209/4 2060*5=0/0/0 2066*a=0/0/0 2070=1f98/14 " ++
  "2071=2090/14 2074+6=1f9c/14 207a=666/14 207b=671/14 207c=66b/14 207d+2=328/14 207f=2118/14 " ++
  "2080+a=1f98/15 208a=666/15 208b=671/15 208c=66b/15 208d+2=328/15 2090=1fa2/15 2091=2007/15 " ++
  "2092=213c/15 2093=2264/15 2094=201a/15 2095=2075/15 2096=20c4/15 2097=20d6/15 2098=2109/15 " ++
  "2099=2118/15 209a=216b/15 209b=21d2/15 209c=21f7/15 20a0+8=1f78 20a8=2193/a,21d2/4 " ++
  "20a9+11=1f80 20ba+5=1f92 20d0=0/2/109 20d1=0/2/10a 20d2*2=0/2/10b 20d4=0/2/10c 20d5=0/2/10d " ++
  "20d6=0/2/10e 20d7=0/2/10f 20d8*3=0/2/35 20db=0/2/110 20dc=0/2/111 20dd*4=0/2/36 20e1=0/2/112 " ++
  "20e2*3=0/2/36 20e5=0/2/35 20e6=0/2/113 20e7=0/2/114 20e8=0/2/115 20e9=0/2/116 20ea*2=0/2/35 " ++
  "20ec*4=0/2/34 20f0=0/2/33 2100=1fa2/4,3a6/4,1fd6/4 2101=1fa2/4,3a6/4,21d2/4 2102=1fd6/b " ++
  "2103=52a/4,1fd6/a 2104=5d6 2105=1fd6/4,3a6/4,213c/4 2106=1fd6/4,3a6/4,2217/4 2107=201f/a " ++
  "2108=5d7 2109=52a/4,2042/a 210a=2051/5 210b*3=2075/b 210e=2075/5 210f=2075,0/2/39 " ++
  "2110*2=2090/b 2112=20d6/b 2113=20d6/5 2114=5d8 2115=2118/b 2116=2118/a,213c/4 2117+2=5d9 " ++
  "2119=216b/b 211a=2180/b 211b*3=2193/b 211e+2=5db 2120=21d2/14,2109/14 " ++
  "2121=21f7/a,2007/a,20d6/a 2122=21f7/14,2109/14 2123=5dd 2124=2286/b 2125=5de 2127=5df " ++
  "2128=2286/b 2129=5e0 212c=1fbc/b 212d=1fd6/b 212e=5e1 212f=2007/5 2130=2007/b 2131=2042/b " ++
  "2132=204f/8 2133=2109/b 2134=213c/5 2135+4=261e/4 2139=2090/5 213a=5e2 " ++
  "213b=2042/a,1fa2/a,2264/a 213c=2334/5 213d=2320/5 213e=2320/b 213f=2334/b 2140=665/5 " ++
  "2141+4=5e3 2145=1feb/b 2146=1feb/5 2147=2007/5 2148=2090/5 2149=20ab/5 214a=5e7 214b=701 " ++
  "214c=5e8 214d=1fa2/a,3a6/4,21d2/a 214e=204f 214f=5e9 2150=1f99/1e,676/1e,1f9f/1e " ++
  "2151=1f99/1e,676/1e,1fa1/1e 2152=1f99/1e,676/1e,1f99/1e,1f98/1e 2153=1f99/1e,676/1e,1f9b/1e " ++
  "2154=1f9a/1e,676/1e,1f9b/1e 2155=1f99/1e,676/1e,1f9d/1e 2156=1f9a/1e,676/1e,1f9d/1e " ++
  "2157=1f9b/1e,676/1e,1f9d/1e 2158=1f9c/1e,676/1e,1f9d/1e 2159=1f99/1e,676/1e,1f9e/1e " ++
  "215a=1f9d/1e,676/1e,1f9e/1e 215b=1f99/1e,676/1e,1fa0/1e 215c=1f9b/1e,676/1e,1fa0/1e " ++
  "215d=1f9d/1e,676/1e,1fa0/1e 215e=1f9f/1e,676/1e,1fa0/1e 215f=1f99/1e,676/1e 2160=2090/a " ++
  "2161=2090/a,2090/a 2162=2090/a,2090/a,2090/a 2163=2090/a,2247/a 2164=2247/a 2165=2247/a,2090/a " ++
  "2166=2247/a,2090/a,2090/a 2167=2247/a,2090/a,2090/a,2090/a 2168=2090/a,2264/a 2169=2264/a " ++
  "216a=2264/a,2090/a 216b=2264/a,2090/a,2090/a 216c=20d6/a 216d=1fd6/a 216e=1feb/a 216f=2109/a " ++
  "2170=2090/4 2171=2090/4,2090/4 2172=2090/4,2090/4,2090/4 2173=2090/4,2247/4 2174=2247/4 " ++
  "2175=2247/4,2090/4 2176=2247/4,2090/4,2090/4 2177=2247/4,2090/4,2090/4,2090/4 " ++
  "2178=2090/4,2264/4 2179=2264/4 217a=2264/4,2090/4 217b=2264/4,2090/4,2090/4 217c=20d6/4 " ++
  "217d=1fd6/4 217e=1feb/4 217f=2109/4 2180+3=1d9b 2183=1fe9/8 2184=1fe9 2185=1f9e 2186+3=1d9e " ++
  "2189=1f98/1e,676/1e,1f9b/1e 218a+2=5ea 2190=5ec 2191=5ee 2192=5ed 2193+7=5ef 219c+12=5f6 " ++
  "21af+1e=608 21d0+34=626 2205+4=65a 220a+2=65e 220d=660 220e+4=662 2212=671 2213+3=673 " ++
  "2216+6=677 221c=67e 221d+7=680 2225=687 2227+5=688 222c=68c/4,68c/4 222d=68c/4,68c/4,68c/4 " ++
  "222e=68d 222f=68d/4,68d/4 2230=68d/4,68d/4,68d/4 2231+10=68e 2242+2=69e 2245+2=6a0 2248=6a2 " ++
  "224a+16=6a3 2261=6b9 2263+a=6ba 2272+2=6c4 2276+2=6c6 227a+6=6c8 2282+2=6ce 2286+2=6d0 " ++
  "228a+22=6d2 22b0+d=6f4 22bd+23=702 22e4+6=725 22ee+1a=72b 2308+4=336 230c+1d=745 232b+d4=762 " ++
  "2400+27=837 2440+b=85e 2460+9=1f99/6 2469=1f99/6,1f98/6 246a=1f99/6,1f99/6 246b=1f99/6,1f9a/6 " ++
  "246c=1f99/6,1f9b/6 246d=1f99/6,1f9c/6 246e=1f99/6,1f9d/6 246f=1f99/6,1f9e/6 2470=1f99/6,1f9f/6 " ++
  "2471=1f99/6,1fa0/6 2472=1f99/6,1fa1/6 2473=1f9a/6,1f98/6 2474=328/4,1f99/4,329/4 " ++
  "2475=328/4,1f9a/4,329/4 2476=328/4,1f9b/4,329/4 2477=328/4,1f9c/4,329/4 " ++
  "2478=328/4,1f9d/4,329/4 2479=328/4,1f9e/4,329/4 247a=328/4,1f9f/4,329/4 " ++
  "247b=328/4,1fa0/4,329/4 247c=328/4,1fa1/4,329/4 247d=328/4,1f99/4,1f98/4,329/4 " ++
  "247e=328/4,1f99/4,1f99/4,329/4 247f=328/4,1f99/4,1f9a/4,329/4 2480=328/4,1f99/4,1f9b/4,329/4 " ++
  "2481=328/4,1f99/4,1f9c/4,329/4 2482=328/4,1f99/4,1f9d/4,329/4 2483=328/4,1f99/4,1f9e/4,329/4 " ++
  "2484=328/4,1f99/4,1f9f/4,329/4 2485=328/4,1f99/4,1fa0/4,329/4 2486=328/4,1f99/4,1fa1/4,329/4 " ++
  "2487=328/4,1f9a/4,1f98/4,329/4 2488=1f99/4,27e/4 2489=1f9a/4,27e/4 248a=1f9b/4,27e/4 " ++
  "248b=1f9c/4,27e/4 248c=1f9d/4,27e/4 248d=1f9e/4,27e/4 248e=1f9f/4,27e/4 248f=1fa0/4,27e/4 " ++
  "2490=1fa1/4,27e/4 2491=1f99/4,1f98/4,27e/4 2492=1f99/4,1f99/4,27e/4 2493=1f99/4,1f9a/4,27e/4 " ++
  "2494=1f99/4,1f9b/4,27e/4 2495=1f99/4,1f9c/4,27e/4 2496=1f99/4,1f9d/4,27e/4 " ++
  "2497=1f99/4,1f9e/4,27e/4 2498=1f99/4,1f9f/4,27e/4 2499=1f99/4,1fa0/4,27e/4 " ++
  "249a=1f99/4,1fa1/4,27e/4 249b=1f9a/4,1f98/4,27e/4 249c=328/4,1fa2/4,329/4 " ++
  "249d=328/4,1fbc/4,329/4 249e=328/4,1fd6/4,329/4 249f=328/4,1feb/4,329/4 " ++
  "24a0=328/4,2007/4,329/4 24a1=328/4,2042/4,329/4 24a2=328/4,2051/4,329/4 " ++
  "24a3=328/4,2075/4,329/4 24a4=328/4,2090/4,329/4 24a5=328/4,20ab/4,329/4 " ++
  "24a6=328/4,20c4/4,329/4 24a7=328/4,20d6/4,329/4 24a8=328/4,2109/4,329/4 " ++
  "24a9=328/4,2118/4,329/4 24aa=328/4,213c/4,329/4 24ab=328/4,216b/4,329/4 " ++
  "24ac=328/4,2180/4,329/4 24ad=328/4,2193/4,329/4 24ae=328/4,21d2/4,329/4 " ++
  "24af=328/4,21f7/4,329/4 24b0=328/4,2217/4,329/4 24b1=328/4,2247/4,329/4 " ++
  "24b2=328/4,2259/4,329/4 24b3=328/4,2264/4,329/4 24b4=328/4,2270/4,329/4 " ++
  "24b5=328/4,2286/4,329/4 24b6=1fa2/c 24b7=1fbc/c 24b8=1fd6/c 24b9=1feb/c 24ba=2007/c " ++
  "24bb=2042/c 24bc=2051/c 24bd=2075/c 24be=2090/c 24bf=20ab/c 24c0=20c4/c 24c1=20d6/c " ++
  "24c2=2109/c 24c3=2118/c 24c4=213c/c 24c5=216b/c 24c6=2180/c 24c7=2193/c 24c8=21d2/c " ++
  "24c9=21f7/c 24ca=2217/c 24cb=2247/c 24cc=2259/c 24cd=2264/c 24ce=2270/c 24cf=2286/c " ++
  "24d0=1fa2/6 24d1=1fbc/6 24d2=1fd6/6 24d3=1feb/6 24d4=2007/6 24d5=2042/6 24d6=2051/6 " ++
  "24d7=2075/6 24d8=2090/6 24d9=20ab/6 24da=20c4/6 24db=20d6/6 24dc=2109/6 24dd=2118/6 " ++
  "24de=213c/6 24df=216b/6 24e0=2180/6 24e1=2193/6 24e2=21d2/6 24e3=21f7/6 24e4=2217/6 " ++
  "24e5=2247/6 24e6=2259/6 24e7=2264/6 24e8=2270/6 24e9=2286/6 24ea=1f98/6 24eb=1f99/6,1f99/6 " ++
  "24ec=1f99/6,1f9a/6 24ed=1f99/6,1f9b/6 24ee=1f99/6,1f9c/6 24ef=1f99/6,1f9d/6 24f0=1f99/6,1f9e/6 " ++
  "24f1=1f99/6,1f9f/6 24f2=1f99/6,1fa0/6 24f3=1f99/6,1fa1/6 24f4=1f9a/6,1f98/6 24f5+9=1f99/6 " ++
  "24fe=1f99/6,1f98/6 24ff=1f98/6 2500+100=869 2600+30=a33 2630+8=fee 2638+35=a63 266d+3=1241 " ++
  "2670+1a=a98 268a+6=fe8 2690+70=ab2 2700+21=b3c 2721+47=b5f 2768+e=35e 2776+9=1f99/6 " ++
  "277f=1f99/6,1f98/6 2780+9=1f99/6 2789=1f99/6,1f98/6 278a+9=1f99/6 2793=1f99/6,1f98/6 " ++
  "2794+31=ba6 27c5+2=352 27c7+1f=bd7 27e6+a=354 27f0+10=bf6 2800+100=ee8 2900+83=c06 2983+16=33c " ++
  "2999+3f=c89 29d8+4=396 29dc+20=cc8 29fc+2=33a 29fe+e=ce8 2a0c=68c/4,68c/4,68c/4,68c/4 " ++
  "2a0d+67=cf6 2a74=240/4,240/4,66b/4 2a75=66b/4,66b/4 2a76=66b/4,66b/4,66b/4 2a77+65=d5d " ++
  "2add+97=dc2 2b76+20=e59 2b98+22=e7a 2bbd+c=e9f 2bca+8=eac 2bec+4=ece 2c00+2f=254a/8 " ++
  "2c30+2f=254a 2c60=20e5/8 2c61=20e5 2c62=20e6/8 2c63=2170/8 2c64=21b7/8 2c65=1fa7 2c66=2200 " ++
  "2c67=2086/8 2c68=2086 2c69=20ce/8 2c6a=20ce 2c6b=22a1/8 2c6c=22a1 2c6d=1fb1/8 2c6e=2110/8 " ++
  "2c6f=1fad/8 2c70=1fb7/8 2c71=2252 2c72=225f/8 2c73=225f 2c74=2253 2c75=2087/8 2c76=2087 " ++
  "2c77=217f 2c78=2014 2c79=21b2 2c7a=215b 2c7b=2019 2c7c=20ab/15 2c7d=2247/1d 2c7e=21de/8 " ++
  "2c7f=229d/8 2c80=234b/8 2c81=234b 2c82=234c/8 2c83=234c 2c84=234d/8 2c85=234d 2c86=234e/8 " ++
  "2c87=234e 2c88=234f/8 2c89=234f 2c8a=2351/8 2c8b=2351 2c8c=2352/8 2c8d=2352 2c8e=2353/8 " ++
  "2c8f=2353 2c90=2354/8 2c91=2354 2c92=2355/8 2c93=2355 2c94=2356/8 2c95=2356 2c96=2358/8 " ++
  "2c97=2358 2c98=2359/8 2c99=2359 2c9a=235a/8 2c9b=235a 2c9c=235d/8 2c9d=235d 2c9e=235e/8 " ++
  "2c9f=235e 2ca0=235f/8 2ca1=235f 2ca2=2360/8 2ca3=2360 2ca4=2361/8 2ca5=2361 2ca6=2362/8 " ++
  "2ca7=2362 2ca8=2363/8 2ca9=2363 2caa=2364/8 2cab=2364 2cac=2365/8 2cad=2365 2cae=2366/8 " ++
  "2caf=2366 2cb0=2367/8 2cb1=2367 2cb2=2382/8 2cb3=2382 2cb4=2383/8 2cb5=2383 2cb6=2350/8 " ++
  "2cb7=2350 2cb8=2357/8 2cb9=2357 2cba=235b/8 2cbb=235b 2cbc=235c/8 2cbd=235c 2cbe=2368/8 " ++
  "2cbf=2368 2cc0=2369/8 2cc1=2369 2cc2=236c/8 2cc3=236c 2cc4=236d/8 2cc5=236d 2cc6=236e/8 " ++
  "2cc7=236e 2cc8=2372/8 2cc9=2372 2cca=2374/8 2ccb=2374 2ccc=2375/8 2ccd=2375 2cce=2376/8 " ++
  "2ccf=2376 2cd0=2377/8 2cd1=2377 2cd2=2378/8 2cd3=2378 2cd4=2379/8 2cd5=2379 2cd6=237c/8 " ++
  "2cd7=237c 2cd8=237e/8 2cd9=237e 2cda=237f/8 2cdb=237f 2cdc=2380/8 2cdd=2380 2cde=2384/8 " ++
  "2cdf=2384 2ce0=2385/8 2ce1=2385 2ce2=2386/8 2ce3=2386 2ce4=2356/4,234b/4,2355/4 2ce5+6=ee2 " ++
  "2ceb=236b/8 2cec=236b 2ced=237b/8 2cee=237b 2cef=0/2/33 2cf0=0/2/23 2cf1=0/2/22 2cf2=2371/8 " ++
  "2cf3=2371 2cf9=288 2cfa+2=275 2cfc=307 2cfd=1db7 2cfe=289 2cff=308 2d00=25a0 2d01=25a2 " ++
  "2d02=25a4 2d03=25a6 2d04=25a8 2d05=25aa 2d06=25ac 2d07=25b0 2d08=25b2 2d09=25b4 2d0a=25b6 " ++
  "2d0b=25b8 2d0c=25ba 2d0d=25be 2d0e=25c0 2d0f=25c2 2d10=25c4 2d11=25c6 2d12=25c8 2d13=25cc " ++
  "2d14=25ce 2d15=25d0 2d16=25d2 2d17=25d4 2d18=25d6 2d19=25d8 2d1a=25da 2d1b=25dc 2d1c=25de " ++
  "2d1d=25e0 2d1e=25e2 2d1f=25e6 2d20=25e8 2d21=25ae 2d22=25bc 2d23=25ca 2d24=25e4 2d25=25ea " ++
  "2d27=25ed 2d2d=25f2 2d30+c=27d9 2d3c+18=27e6 2d54+12=27ff 2d66=27e5 2d67=27fe 2d6f=2811 " ++
  "2d70=453 2d7f=0/0/0 2d80=2822 2d81=2837 2d82=2848 2d83=2851 2d84=2860 2d85=2886 2d86=2897 " ++
  "2d87=28a0 2d88=28b6 2d89=28bf 2d8a=28c8 2d8b=28f9 2d8c=2918 2d8d=2927 2d8e=2930 2d8f=2952 " ++
  "2d90=295b 2d91=296b 2d92=299b 2d93+4=2946 2da0+7=299f 2da8+7=29a6 2db0+7=29ad 2db8+7=29b4 " ++
  "2dc0+7=29bb 2dc8+7=29c2 2dd0+7=29c9 2dd8+7=29d0 2de0=2393/4 2de1=2397/4 2de2=239b/4 " ++
  "2de3=23af/4 2de4=23c7/4 2de5=23d1/4 2de6=23fb/4 2de7=2415/4 2de8=2428/4 2de9=2431/4 " ++
  "2dea=244c/4 2deb=2454/4 2dec=2461/4 2ded=246a/4 2dee=2473/4 2def=2497/4 2df0=24be/4 " ++
  "2df1=24c9/4 2df2=24e8/4 2df3=24ed/4 2df4=2538/4 2df5=246a/4,2473/4 2df6=2387/4 2df7=23bf/4 " ++
  "2df8=23fa/4 2df9=248e/4 2dfa=2505/4 2dfb=250e/4 2dfc=2513/4 2dfd=251d/4 2dfe=2522/4 " ++
  "2dff=252c/4"

/-- Elements: radicals, kana, enclosed and squared forms. -/
def eastAsian : String :=
  "2e00+2=3cb 2e02+4=36c 2e06+3=3cd 2e09+2=370 2e0b=3d0 2e0c+2=372 2e0e+9=3d1 2e17=21c 2e18=27d " ++
  "2e19=309 2e1a+2=3da 2e1c+2=374 2e1e+2=3dc 2e20+a=376 2e2a+4=302 2e2e=26f 2e2f=24f2 2e30=28a " ++
  "2e31=294 2e32=225 2e33=295 2e34=224 2e35=23d 2e36+3=3b5 2e39=39b 2e3a+2=218 2e3c=28b 2e3d=306 " ++
  "2e3e=395 2e3f=39f 2e40=21d 2e41=226 2e42=322 2e43=21b 2e44=3de 2e80=fb40/4,ce36/0/0,0/4/118 " ++
  "2e81=fb40/4,d382/0/0,0/4/118 2e82=fb40/4,ce5b/0/0 2e83=fb40/4,ce5a/0/0 " ++
  "2e84=fb40/4,ce59/0/0,0/4/118 2e85=fb40/4,cebb/0/0 2e86=fb40/4,d182/0/0,0/4/118 " ++
  "2e87=fb40/4,d1e0/0/0,0/4/118 2e88=fb40/4,d200/0/0,0/4/118 2e89=fb40/4,d202/0/0 " ++
  "2e8a=fb40/4,d35c/0/0,0/4/118 2e8b=fb40/4,d369/0/0,0/4/118 2e8c=fb40/4,dc0f/0/0,0/4/118 " ++
  "2e8d=fb40/4,dc0f/0/0,0/4/119 2e8e=fb40/4,dc22/0/0,0/4/118 2e8f=fb40/4,dc23/0/0 " ++
  "2e90=fb40/4,dc22/0/0 2e91=fb40/4,dc23/0/0,0/4/118 2e92=fb40/4,ddf3/0/0 2e93=fb40/4,de7a/0/0 " ++
  "2e94=fb40/4,df51/0/0 2e95=fb40/4,df50/0/0,0/4/118 2e96=fb40/4,dfc4/0/0 " ++
  "2e97=fb40/4,dfc3/0/0,0/4/118 2e98=fb40/4,e24c/0/0 2e99=fb40/4,e535/0/0 2e9b=fb40/4,e5e1/0/0 " ++
  "2e9c=fb40/4,e5e5/0/0,0/4/118 2e9d=fb40/4,e708/0/0,0/4/118 2e9e=fb40/4,eb7a/0/0,0/4/118 " ++
  "2e9f=fb40/4,ebcd/0/0 2ea0=fb40/4,ec11/0/0 2ea1=fb40/4,ec35/0/0 2ea2=fb40/4,ec3a/0/0 " ++
  "2ea3=fb40/4,f06c/0/0 2ea4=fb40/4,f22b/0/0 2ea5=fb40/4,f22b/0/0,0/4/118 2ea6=fb40/4,ce2c/0/0 " ++
  "2ea7=fb40/4,f25b/0/0,0/4/118 2ea8=fb40/4,f2ad/0/0 2ea9=fb40/4,f38b/0/0,0/4/118 " ++
  "2eaa=fb40/4,f58b/0/0,0/4/118 2eab=fb40/4,f6ee/0/0,0/4/118 2eac=fb40/4,f93a/0/0,0/4/118 " ++
  "2ead=fb40/4,f93b/0/0 2eae=fb40/4,faf9/0/0,0/4/118 2eaf=fb40/4,fcf9/0/0 2eb0=fb40/4,fe9f/0/0 " ++
  "2eb1=fb40/4,ff53/0/0 2eb2=fb40/4,ff52/0/0 2eb3=fb40/4,ff53/0/0,0/4/118 " ++
  "2eb4=fb40/4,ff53/0/0,0/4/119 2eb5=fb40/4,ff52/0/0,0/4/118 2eb6=fb40/4,ff8a/0/0,0/4/118 " ++
  "2eb7=fb40/4,ff8a/0/0,0/4/119 2eb8=fb40/4,ff8b/0/0 2eb9=fb41/4,8002/0/0 2eba=fb41/4,8080/0/0 " ++
  "2ebb=fb41/4,807f/0/0,0/4/118 2ebc=fb41/4,8089/0/0,0/4/118 2ebd=fb41/4,81fc/0/0,0/4/118 " ++
  "2ebe=fb41/4,8279/0/0 2ebf=fb41/4,8279/0/0,0/4/118 2ec0=fb41/4,8279/0/0,0/4/119 " ++
  "2ec1=fb41/4,864e/0/0 2ec2=fb41/4,8864/0/0 2ec3=fb41/4,8980/0/0 2ec4=fb41/4,897f/0/0 " ++
  "2ec5=fb41/4,89c1/0/0 2ec6=fb41/4,89d2/0/0 2ec7=fb41/4,89d2/0/0,0/4/118 2ec8=fb41/4,8ba0/0/0 " ++
  "2ec9=fb41/4,8d1d/0/0 2eca=fb41/4,8db3/0/0,0/4/118 2ecb=fb41/4,8f66/0/0 2ecc=fb41/4,8fb6/0/0 " ++
  "2ecd=fb41/4,8fb6/0/0,0/4/118 2ece=fb41/4,8fb6/0/0,0/4/119 2ecf=fb41/4,9091/0/0,0/4/118 " ++
  "2ed0=fb41/4,9485/0/0 2ed1=fb41/4,9577/0/0 2ed2=fb41/4,9578/0/0 2ed3=fb41/4,957f/0/0 " ++
  "2ed4=fb41/4,95e8/0/0 2ed5=fb41/4,961c/0/0,0/4/118 2ed6=fb41/4,961d/0/0 " ++
  "2ed7=fb41/4,96e8/0/0,0/4/118 2ed8=fb41/4,9752/0/0 2ed9=fb41/4,97e6/0/0 2eda=fb41/4,9875/0/0 " ++
  "2edb=fb41/4,98ce/0/0 2edc=fb41/4,98de/0/0 2edd=fb41/4,98df/0/0 2ede=fb41/4,98e0/0/0,0/4/118 " ++
  "2edf=fb41/4,98e0/0/0 2ee0=fb41/4,9963/0/0 2ee1=fb41/4,9996/0/0,0/4/118 2ee2=fb41/4,9a6c/0/0 " ++
  "2ee3=fb41/4,9aa8/0/0,0/4/118 2ee4=fb41/4,9b3c/0/0,0/4/118 2ee5=fb41/4,9c7c/0/0 " ++
  "2ee6=fb41/4,9e1f/0/0 2ee7=fb41/4,9e75/0/0,0/4/118 2ee8=fb41/4,9ea6/0/0 2ee9=fb41/4,9ec4/0/0 " ++
  "2eea=fb41/4,9efe/0/0 2eeb=fb41/4,9f4a/0/0,0/4/118 2eec=fb41/4,9f50/0/0 " ++
  "2eed=fb41/4,9f52/0/0,0/4/118 2eee=fb41/4,9f7f/0/0 2eef=fb41/4,9f8d/0/0,0/4/118 " ++
  "2ef0=fb41/4,9f99/0/0 2ef1=fb41/4,9f9c/0/0,0/4/118 2ef2=fb41/4,9f9c/0/0,0/4/119 " ++
  "2ef3=fb41/4,9f9f/0/0 2f00=fb40/4,ce00/0/0 2f01=fb40/4,ce28/0/0 2f02=fb40/4,ce36/0/0 " ++
  "2f03=fb40/4,ce3f/0/0 2f04=fb40/4,ce59/0/0 2f05=fb40/4,ce85/0/0 2f06=fb40/4,ce8c/0/0 " ++
  "2f07=fb40/4,cea0/0/0 2f08=fb40/4,ceba/0/0 2f09=fb40/4,d13f/0/0 2f0a=fb40/4,d165/0/0 " ++
  "2f0b=fb40/4,d16b/0/0 2f0c=fb40/4,d182/0/0 2f0d=fb40/4,d196/0/0 2f0e=fb40/4,d1ab/0/0 " ++
  "2f0f=fb40/4,d1e0/0/0 2f10=fb40/4,d1f5/0/0 2f11=fb40/4,d200/0/0 2f12=fb40/4,d29b/0/0 " ++
  "2f13=fb40/4,d2f9/0/0 2f14=fb40/4,d315/0/0 2f15=fb40/4,d31a/0/0 2f16=fb40/4,d338/0/0 " ++
  "2f17=fb40/4,d341/0/0 2f18=fb40/4,d35c/0/0 2f19=fb40/4,d369/0/0 2f1a=fb40/4,d382/0/0 " ++
  "2f1b=fb40/4,d3b6/0/0 2f1c=fb40/4,d3c8/0/0 2f1d=fb40/4,d3e3/0/0 2f1e=fb40/4,d6d7/0/0 " ++
  "2f1f=fb40/4,d71f/0/0 2f20=fb40/4,d8eb/0/0 2f21=fb40/4,d902/0/0 2f22=fb40/4,d90a/0/0 " ++
  "2f23=fb40/4,d915/0/0 2f24=fb40/4,d927/0/0 2f25=fb40/4,d973/0/0 2f26=fb40/4,db50/0/0 " ++
  "2f27=fb40/4,db80/0/0 2f28=fb40/4,dbf8/0/0 2f29=fb40/4,dc0f/0/0 2f2a=fb40/4,dc22/0/0 " ++
  "2f2b=fb40/4,dc38/0/0 2f2c=fb40/4,dc6e/0/0 2f2d=fb40/4,dc71/0/0 2f2e=fb40/4,dddb/0/0 " ++
  "2f2f=fb40/4,dde5/0/0 2f30=fb40/4,ddf1/0/0 2f31=fb40/4,ddfe/0/0 2f32=fb40/4,de72/0/0 " ++
  "2f33=fb40/4,de7a/0/0 2f34=fb40/4,de7f/0/0 2f35=fb40/4,def4/0/0 2f36=fb40/4,defe/0/0 " ++
  "2f37=fb40/4,df0b/0/0 2f38=fb40/4,df13/0/0 2f39=fb40/4,df50/0/0 2f3a=fb40/4,df61/0/0 " ++
  "2f3b=fb40/4,df73/0/0 2f3c=fb40/4,dfc3/0/0 2f3d=fb40/4,e208/0/0 2f3e=fb40/4,e236/0/0 " ++
  "2f3f=fb40/4,e24b/0/0 2f40=fb40/4,e52f/0/0 2f41=fb40/4,e534/0/0 2f42=fb40/4,e587/0/0 " ++
  "2f43=fb40/4,e597/0/0 2f44=fb40/4,e5a4/0/0 2f45=fb40/4,e5b9/0/0 2f46=fb40/4,e5e0/0/0 " ++
  "2f47=fb40/4,e5e5/0/0 2f48=fb40/4,e6f0/0/0 2f49=fb40/4,e708/0/0 2f4a=fb40/4,e728/0/0 " ++
  "2f4b=fb40/4,eb20/0/0 2f4c=fb40/4,eb62/0/0 2f4d=fb40/4,eb79/0/0 2f4e=fb40/4,ebb3/0/0 " ++
  "2f4f=fb40/4,ebcb/0/0 2f50=fb40/4,ebd4/0/0 2f51=fb40/4,ebdb/0/0 2f52=fb40/4,ec0f/0/0 " ++
  "2f53=fb40/4,ec14/0/0 2f54=fb40/4,ec34/0/0 2f55=fb40/4,f06b/0/0 2f56=fb40/4,f22a/0/0 " ++
  "2f57=fb40/4,f236/0/0 2f58=fb40/4,f23b/0/0 2f59=fb40/4,f23f/0/0 2f5a=fb40/4,f247/0/0 " ++
  "2f5b=fb40/4,f259/0/0 2f5c=fb40/4,f25b/0/0 2f5d=fb40/4,f2ac/0/0 2f5e=fb40/4,f384/0/0 " ++
  "2f5f=fb40/4,f389/0/0 2f60=fb40/4,f4dc/0/0 2f61=fb40/4,f4e6/0/0 2f62=fb40/4,f518/0/0 " ++
  "2f63=fb40/4,f51f/0/0 2f64=fb40/4,f528/0/0 2f65=fb40/4,f530/0/0 2f66=fb40/4,f58b/0/0 " ++
  "2f67=fb40/4,f592/0/0 2f68=fb40/4,f676/0/0 2f69=fb40/4,f67d/0/0 2f6a=fb40/4,f6ae/0/0 " ++
  "2f6b=fb40/4,f6bf/0/0 2f6c=fb40/4,f6ee/0/0 2f6d=fb40/4,f7db/0/0 2f6e=fb40/4,f7e2/0/0 " ++
  "2f6f=fb40/4,f7f3/0/0 2f70=fb40/4,f93a/0/0 2f71=fb40/4,f9b8/0/0 2f72=fb40/4,f9be/0/0 " ++
  "2f73=fb40/4,fa74/0/0 2f74=fb40/4,facb/0/0 2f75=fb40/4,faf9/0/0 2f76=fb40/4,fc73/0/0 " ++
  "2f77=fb40/4,fcf8/0/0 2f78=fb40/4,ff36/0/0 2f79=fb40/4,ff51/0/0 2f7a=fb40/4,ff8a/0/0 " ++
  "2f7b=fb40/4,ffbd/0/0 2f7c=fb41/4,8001/0/0 2f7d=fb41/4,800c/0/0 2f7e=fb41/4,8012/0/0 " ++
  "2f7f=fb41/4,8033/0/0 2f80=fb41/4,807f/0/0 2f81=fb41/4,8089/0/0 2f82=fb41/4,81e3/0/0 " ++
  "2f83=fb41/4,81ea/0/0 2f84=fb41/4,81f3/0/0 2f85=fb41/4,81fc/0/0 2f86=fb41/4,820c/0/0 " ++
  "2f87=fb41/4,821b/0/0 2f88=fb41/4,821f/0/0 2f89=fb41/4,826e/0/0 2f8a=fb41/4,8272/0/0 " ++
  "2f8b=fb41/4,8278/0/0 2f8c=fb41/4,864d/0/0 2f8d=fb41/4,866b/0/0 2f8e=fb41/4,8840/0/0 " ++
  "2f8f=fb41/4,884c/0/0 2f90=fb41/4,8863/0/0 2f91=fb41/4,897e/0/0 2f92=fb41/4,898b/0/0 " ++
  "2f93=fb41/4,89d2/0/0 2f94=fb41/4,8a00/0/0 2f95=fb41/4,8c37/0/0 2f96=fb41/4,8c46/0/0 " ++
  "2f97=fb41/4,8c55/0/0 2f98=fb41/4,8c78/0/0 2f99=fb41/4,8c9d/0/0 2f9a=fb41/4,8d64/0/0 " ++
  "2f9b=fb41/4,8d70/0/0 2f9c=fb41/4,8db3/0/0 2f9d=fb41/4,8eab/0/0 2f9e=fb41/4,8eca/0/0 " ++
  "2f9f=fb41/4,8f9b/0/0 2fa0=fb41/4,8fb0/0/0 2fa1=fb41/4,8fb5/0/0 2fa2=fb41/4,9091/0/0 " ++
  "2fa3=fb41/4,9149/0/0 2fa4=fb41/4,91c6/0/0 2fa5=fb41/4,91cc/0/0 2fa6=fb41/4,91d1/0/0 " ++
  "2fa7=fb41/4,9577/0/0 2fa8=fb41/4,9580/0/0 2fa9=fb41/4,961c/0/0 2faa=fb41/4,96b6/0/0 " ++
  "2fab=fb41/4,96b9/0/0 2fac=fb41/4,96e8/0/0 2fad=fb41/4,9751/0/0 2fae=fb41/4,975e/0/0 " ++
  "2faf=fb41/4,9762/0/0 2fb0=fb41/4,9769/0/0 2fb1=fb41/4,97cb/0/0 2fb2=fb41/4,97ed/0/0 " ++
  "2fb3=fb41/4,97f3/0/0 2fb4=fb41/4,9801/0/0 2fb5=fb41/4,98a8/0/0 2fb6=fb41/4,98db/0/0 " ++
  "2fb7=fb41/4,98df/0/0 2fb8=fb41/4,9996/0/0 2fb9=fb41/4,9999/0/0 2fba=fb41/4,99ac/0/0 " ++
  "2fbb=fb41/4,9aa8/0/0 2fbc=fb41/4,9ad8/0/0 2fbd=fb41/4,9adf/0/0 2fbe=fb41/4,9b25/0/0 " ++
  "2fbf=fb41/4,9b2f/0/0 2fc0=fb41/4,9b32/0/0 2fc1=fb41/4,9b3c/0/0 2fc2=fb41/4,9b5a/0/0 " ++
  "2fc3=fb41/4,9ce5/0/0 2fc4=fb41/4,9e75/0/0 2fc5=fb41/4,9e7f/0/0 2fc6=fb41/4,9ea5/0/0 " ++
  "2fc7=fb41/4,9ebb/0/0 2fc8=fb41/4,9ec3/0/0 2fc9=fb41/4,9ecd/0/0 2fca=fb41/4,9ed1/0/0 " ++
  "2fcb=fb41/4,9ef9/0/0 2fcc=fb41/4,9efd/0/0 2fcd=fb41/4,9f0e/0/0 2fce=fb41/4,9f13/0/0 " ++
  "2fcf=fb41/4,9f20/0/0 2fd0=fb41/4,9f3b/0/0 2fd1=fb41/4,9f4a/0/0 2fd2=fb41/4,9f52/0/0 " ++
  "2fd3=fb41/4,9f8d/0/0 2fd4=fb41/4,9f9c/0/0 2fd5=fb41/4,9fa0/0/0 2ff0+c=1d1b 3000=209/3 3001=236 " ++
  "3002=292 3003=3c1 3004=1d4b 3005=1f57 3006=42e6/4,42fc/4 3007=1f98 3008+a=380 3012+2=1d4c " ++
  "3014+8=38a 301c=21e 301d+3=323 3020=1d4e 3021+9=1f99 302a=0/2/101 302b=0/2/102 302c=0/2/103 " ++
  "302d=0/2/104 302e=0/2/105 302f=0/2/106 3030=21f 3031=1f5c 3032=1f5c,0/2/37 3033=1f5d " ++
  "3034=1f5d,0/2/37 3035=1f5e 3036=1d4c/4 3037=1d4f 3038=fb40/4,d341/0/0 3039=fb40/4,d344/0/0 " ++
  "303a=fb40/4,d345/0/0 303b=1f58 303c=42f9/4,42e7/4 303d=3c2 303e+2=1d50 3041=42da/d 3042=42da/e " ++
  "3043=42db/d 3044=42db/e 3045=42dc/d 3046=42dc/e 3047=42de/d 3048=42de/e 3049=42df/d " ++
  "304a+2=42df/e 304d=42e1/e 304f=42e2/e 3051=42e3/e 3053=42e4/e 3055=42e5/e 3057=42e6/e " ++
  "3059=42e7/e 305b=42e8/e 305d=42e9/e 305f=42ea/e 3061=42eb/e 3063=42ec/d 3064=42ec/e " ++
  "3066=42ed/e 3068=42ee/e 306a+6=42ef/e 3072=42f5/e 3075=42f6/e 3078=42f7/e 307b=42f8/e " ++
  "307e+5=42f9/e 3083=42fe/d 3084=42fe/e 3085=42ff/d 3086=42ff/e 3087=4300/d 3088+6=4300/e " ++
  "308e=4306/d 308f+5=4306/e 3095=42e0/d 3096=42e3/d 3099=0/2/37 309a=0/2/38 309b+2=4c3 309d=1f5f " ++
  "309f=4300/16,4302/16 30a0=220 30a1=42da/f 30a2=42da/11 30a3=42db/f 30a4=42db/11 30a5=42dc/f " ++
  "30a6=42dc/11 30a7=42de/f 30a8=42de/11 30a9=42df/f 30aa+2=42df/11 30ad=42e1/11 30af=42e2/11 " ++
  "30b1=42e3/11 30b3=42e4/11 30b5=42e5/11 30b7=42e6/11 30b9=42e7/11 30bb=42e8/11 30bd=42e9/11 " ++
  "30bf=42ea/11 30c1=42eb/11 30c3=42ec/f 30c4=42ec/11 30c6=42ed/11 30c8=42ee/11 30ca+6=42ef/11 " ++
  "30d2=42f5/11 30d5=42f6/11 30d8=42f7/11 30db=42f8/11 30de+5=42f9/11 30e3=42fe/f 30e4=42fe/11 " ++
  "30e5=42ff/f 30e6=42ff/11 30e7=4300/f 30e8+6=4300/11 30ee=4306/f 30ef+5=4306/11 30f5=42e0/f " ++
  "30f6=42e3/f 30fb=221 30fc+2=1f60 30ff=42e4/16,42ee/16 3105+3=4429 3108=442d 3109+3=442f " ++
  "310c+3=4433 310f+4=4438 3113+7=443f 311a+2=4449 311c+2=444c 311e+7=444f 3125=4457 3126+4=445a " ++
  "312a=442e 312b=4436 312c=443c 312d=445e 3131+2=4175/4 3133=4253/4 3134=4177/4 3135+2=4255/4 " ++
  "3137+3=4178/4 313a+6=4259/4 3140=418f/4 3141+3=417b/4 3144=4196/4 3145+a=417e/4 314f+15=41f3/4 " ++
  "3164=41f2/4 3165+2=4189/4 3167+2=4270/4 3169=4275/4 316a=4277/4 316b=427c/4 316c=4280/4 " ++
  "316d=4282/4 316e=4191/4 316f=4286/4 3170=4288/4 3171+2=4192/4 3173=4195/4 3174+2=4197/4 " ++
  "3176=419c/4 3177=419e/4 3178+5=41a0/4 317d=41a7/4 317e=41ab/4 317f=41b5/4 3180=41bc/4 " ++
  "3181=41c1/4 3182+2=429a/4 3184+3=41cc/4 3187+2=4216/4 3189=421a/4 318a+2=4223/4 318c=4226/4 " ++
  "318d=4230/4 318e=4233/4 3190+2=1d52 3192=fb40/14,ce00/0/0 3193=fb40/14,ce8c/0/0 " ++
  "3194=fb40/14,ce09/0/0 3195=fb40/14,d6db/0/0 3196=fb40/14,ce0a/0/0 3197=fb40/14,ce2d/0/0 " ++
  "3198=fb40/14,ce0b/0/0 3199=fb40/14,f532/0/0 319a=fb40/14,ce59/0/0 319b=fb40/14,ce19/0/0 " ++
  "319c=fb40/14,ce01/0/0 319d=fb40/14,d929/0/0 319e=fb40/14,d730/0/0 319f=fb40/14,ceba/0/0 " ++
  "31a0=4429/4,0/4/119 31a1=4443/4,0/4/119 31a2=4439/4,0/4/119 31a3=4434/4,0/4/119 31a4=444e " ++
  "31a5=444e/4,0/4/119 31a6=444b 31a7=444a/4,0/4/119 31a8=445c/4,0/4/11a 31a9=4449/4,0/4/119 " ++
  "31aa=445b/4,0/4/119 31ab=445c/4,0/4/119 31ac=442c 31ad=4437 31ae=444f/4,0/4/119 " ++
  "31af=4451/4,0/4/119 31b0+2=4458 31b2=4456 31b3=445b/16,0/16/119 31b4=442a/19 31b5=4430/19 " ++
  "31b6=4435/19 31b7=4438/19 31b8+3=4446 31c0+24=1d27 31f0=42e2/f 31f1+2=42e6/f 31f3=42ee/f " ++
  "31f4=42f1/f 31f5+5=42f4/f 31fa=42fb/f 31fb+5=4301/f 3200=328/4,4175/4,329/4 " ++
  "3201=328/4,4177/4,329/4 3202=328/4,4178/4,329/4 3203=328/4,417a/4,329/4 " ++
  "3204=328/4,417b/4,329/4 3205=328/4,417c/4,329/4 3206=328/4,417e/4,329/4 " ++
  "3207=328/4,4180/4,329/4 3208=328/4,4181/4,329/4 3209=328/4,4183/4,329/4 " ++
  "320a=328/4,4184/4,329/4 320b=328/4,4185/4,329/4 320c=328/4,4186/4,329/4 " ++
  "320d=328/4,4187/4,329/4 320e=328/4,4175/4,41f3/4,329/4 320f=328/4,4177/4,41f3/4,329/4 " ++
  "3210=328/4,4178/4,41f3/4,329/4 3211=328/4,417a/4,41f3/4,329/4 3212=328/4,417b/4,41f3/4,329/4 " ++
  "3213=328/4,417c/4,41f3/4,329/4 3214=328/4,417e/4,41f3/4,329/4 3215=328/4,4180/4,41f3/4,329/4 " ++
  "3216=328/4,4181/4,41f3/4,329/4 3217=328/4,4183/4,41f3/4,329/4 3218=328/4,4184/4,41f3/4,329/4 " ++
  "3219=328/4,4185/4,41f3/4,329/4 321a=328/4,4186/4,41f3/4,329/4 321b=328/4,4187/4,41f3/4,329/4 " ++
  "321c=328/4,4181/4,4200/4,329/4 321d=328/4,4180/4,41fb/4,4181/4,41f7/4,4254/4,329/4 " ++
  "321e=328/4,4180/4,41fb/4,4187/4,4200/4,329/4 3220=328/4,fb40/4,ce00/0/0,329/4 " ++
  "3221=328/4,fb40/4,ce8c/0/0,329/4 3222=328/4,fb40/4,ce09/0/0,329/4 " ++
  "3223=328/4,fb40/4,d6db/0/0,329/4 3224=328/4,fb40/4,ce94/0/0,329/4 " ++
  "3225=328/4,fb40/4,d16d/0/0,329/4 3226=328/4,fb40/4,ce03/0/0,329/4 " ++
  "3227=328/4,fb40/4,d16b/0/0,329/4 3228=328/4,fb40/4,ce5d/0/0,329/4 " ++
  "3229=328/4,fb40/4,d341/0/0,329/4 322a=328/4,fb40/4,e708/0/0,329/4 " ++
  "322b=328/4,fb40/4,f06b/0/0,329/4 322c=328/4,fb40/4,ec34/0/0,329/4 " ++
  "322d=328/4,fb40/4,e728/0/0,329/4 322e=328/4,fb41/4,91d1/0/0,329/4 " ++
  "322f=328/4,fb40/4,d71f/0/0,329/4 3230=328/4,fb40/4,e5e5/0/0,329/4 " ++
  "3231=328/4,fb40/4,e82a/0/0,329/4 3232=328/4,fb40/4,e709/0/0,329/4 " ++
  "3233=328/4,fb40/4,f93e/0/0,329/4 3234=328/4,fb40/4,d40d/0/0,329/4 " ++
  "3235=328/4,fb40/4,f279/0/0,329/4 3236=328/4,fb41/4,8ca1/0/0,329/4 " ++
  "3237=328/4,fb40/4,f95d/0/0,329/4 3238=328/4,fb40/4,d2b4/0/0,329/4 " ++
  "3239=328/4,fb40/4,cee3/0/0,329/4 323a=328/4,fb40/4,d47c/0/0,329/4 " ++
  "323b=328/4,fb40/4,db66/0/0,329/4 323c=328/4,fb40/4,f6e3/0/0,329/4 " ++
  "323d=328/4,fb40/4,cf01/0/0,329/4 323e=328/4,fb41/4,8cc7/0/0,329/4 " ++
  "323f=328/4,fb40/4,d354/0/0,329/4 3240=328/4,fb40/4,f96d/0/0,329/4 " ++
  "3241=328/4,fb40/4,cf11/0/0,329/4 3242=328/4,fb41/4,81ea/0/0,329/4 " ++
  "3243=328/4,fb41/4,81f3/0/0,329/4 3244=fb40/6,d54f/0/0 3245=fb40/6,de7c/0/0 " ++
  "3246=fb40/6,e587/0/0 3247=fb40/6,fb8f/0/0 3248=1f99/6,1f98/6 3249=1f9a/6,1f98/6 " ++
  "324a=1f9b/6,1f98/6 324b=1f9c/6,1f98/6 324c=1f9d/6,1f98/6 324d=1f9e/6,1f98/6 324e=1f9f/6,1f98/6 " ++
  "324f=1fa0/6,1f98/6 3250=216b/1d,21f7/1d,2007/1d 3251=1f9a/6,1f99/6 3252=1f9a/6,1f9a/6 " ++
  "3253=1f9a/6,1f9b/6 3254=1f9a/6,1f9c/6 3255=1f9a/6,1f9d/6 3256=1f9a/6,1f9e/6 3257=1f9a/6,1f9f/6 " ++
  "3258=1f9a/6,1fa0/6 3259=1f9a/6,1fa1/6 325a=1f9b/6,1f98/6 325b=1f9b/6,1f99/6 325c=1f9b/6,1f9a/6 " ++
  "325d=1f9b/6,1f9b/6 325e=1f9b/6,1f9c/6 325f=1f9b/6,1f9d/6 3260=4175/6 3261+2=4177/6 " ++
  "3263+3=417a/6 3266=417e/6 3267+2=4180/6 3269+5=4183/6 326e=4175/6,41f3/6 326f=4177/6,41f3/6 " ++
  "3270=4178/6,41f3/6 3271=417a/6,41f3/6 3272=417b/6,41f3/6 3273=417c/6,41f3/6 3274=417e/6,41f3/6 " ++
  "3275=4180/6,41f3/6 3276=4181/6,41f3/6 3277=4183/6,41f3/6 3278=4184/6,41f3/6 3279=4185/6,41f3/6 " ++
  "327a=4186/6,41f3/6 327b=4187/6,41f3/6 327c=4183/6,41f3/6,4260/6,4175/6,41fb/6 " ++
  "327d=4181/6,4200/6,4180/6,4206/6 327e=4180/6,4200/6 327f=1d54 3280=fb40/6,ce00/0/0 " ++
  "3281=fb40/6,ce8c/0/0 3282=fb40/6,ce09/0/0 3283=fb40/6,d6db/0/0 3284=fb40/6,ce94/0/0 " ++
  "3285=fb40/6,d16d/0/0 3286=fb40/6,ce03/0/0 3287=fb40/6,d16b/0/0 3288=fb40/6,ce5d/0/0 " ++
  "3289=fb40/6,d341/0/0 328a=fb40/6,e708/0/0 328b=fb40/6,f06b/0/0 328c=fb40/6,ec34/0/0 " ++
  "328d=fb40/6,e728/0/0 328e=fb41/6,91d1/0/0 328f=fb40/6,d71f/0/0 3290=fb40/6,e5e5/0/0 " ++
  "3291=fb40/6,e82a/0/0 3292=fb40/6,e709/0/0 3293=fb40/6,f93e/0/0 3294=fb40/6,d40d/0/0 " ++
  "3295=fb40/6,f279/0/0 3296=fb41/6,8ca1/0/0 3297=fb40/6,f95d/0/0 3298=fb40/6,d2b4/0/0 " ++
  "3299=fb40/6,f9d8/0/0 329a=fb40/6,f537/0/0 329b=fb40/6,d973/0/0 329c=fb41/6,9069/0/0 " ++
  "329d=fb40/6,d12a/0/0 329e=fb40/6,d370/0/0 329f=fb40/6,ece8/0/0 32a0=fb41/6,9805/0/0 " ++
  "32a1=fb40/6,cf11/0/0 32a2=fb40/6,d199/0/0 32a3=fb40/6,eb63/0/0 32a4=fb40/6,ce0a/0/0 " ++
  "32a5=fb40/6,ce2d/0/0 32a6=fb40/6,ce0b/0/0 32a7=fb40/6,dde6/0/0 32a8=fb40/6,d3f3/0/0 " ++
  "32a9=fb40/6,d33b/0/0 32aa=fb40/6,db97/0/0 32ab=fb40/6,db66/0/0 32ac=fb40/6,f6e3/0/0 " ++
  "32ad=fb40/6,cf01/0/0 32ae=fb41/6,8cc7/0/0 32af=fb40/6,d354/0/0 32b0=fb40/6,d91c/0/0 " ++
  "32b1=1f9b/6,1f9e/6 32b2=1f9b/6,1f9f/6 32b3=1f9b/6,1fa0/6 32b4=1f9b/6,1fa1/6 32b5=1f9c/6,1f98/6 " ++
  "32b6=1f9c/6,1f99/6 32b7=1f9c/6,1f9a/6 32b8=1f9c/6,1f9b/6 32b9=1f9c/6,1f9c/6 32ba=1f9c/6,1f9d/6 " ++
  "32bb=1f9c/6,1f9e/6 32bc=1f9c/6,1f9f/6 32bd=1f9c/6,1fa0/6 32be=1f9c/6,1fa1/6 32bf=1f9d/6,1f98/6 " ++
  "32c0=1f99/4,fb40/4,e708/0/0 32c1=1f9a/4,fb40/4,e708/0/0 32c2=1f9b/4,fb40/4,e708/0/0 " ++
  "32c3=1f9c/4,fb40/4,e708/0/0 32c4=1f9d/4,fb40/4,e708/0/0 32c5=1f9e/4,fb40/4,e708/0/0 " ++
  "32c6=1f9f/4,fb40/4,e708/0/0 32c7=1fa0/4,fb40/4,e708/0/0 32c8=1fa1/4,fb40/4,e708/0/0 " ++
  "32c9=1f99/4,1f98/4,fb40/4,e708/0/0 32ca=1f99/4,1f99/4,fb40/4,e708/0/0 " ++
  "32cb=1f99/4,1f9a/4,fb40/4,e708/0/0 32cc=2075/1d,2051/1c 32cd=2007/1c,2193/1c,2051/1c " ++
  "32ce=2007/1c,2247/1d 32cf=20d6/1d,21f7/1d,1feb/1d 32d0+3=42da/13 32d3+2c=42de/13 " ++
  "3300=42da/1c,42f4/1c,0/1c/38,1f60/1c,42ee/1c 3301=42da/1c,4303/1c,42f6/1c,42da/1c " ++
  "3302=42da/1c,430a/1c,42f7/1c,0/1c/38,42da/1c 3303=42da/1c,1f60/1c,4303/1c " ++
  "3304=42db/1c,42f0/1c,430a/1c,42e2/1c,0/1c/37 3305=42db/1c,430a/1c,42eb/1c " ++
  "3306=42dc/1c,42df/1c,430a/1c 3307=42de/1c,42e7/1c,42e2/1c,1f60/1c,42ee/1c,0/1c/37 " ++
  "3308=42de/1c,1f60/1c,42e0/1c,1f60/1c 3309=42df/1c,430a/1c,42e7/1c 330a=42df/1c,1f60/1c,42fb/1c " ++
  "330b=42e0/1c,42db/1c,4302/1c 330c=42e0/1c,4301/1c,42ec/1c,42ee/1c " ++
  "330d=42e0/1c,4305/1c,4302/1c,1f60/1c 330e=42e0/1c,0/1c/37,4305/1c,430a/1c " ++
  "330f=42e0/1c,0/1c/37,430a/1c,42f9/1c 3310=42e1/1c,0/1c/37,42e0/1c,0/1c/37 " ++
  "3311=42e1/1c,0/1c/37,42f0/1c,1f60/1c 3312=42e1/1c,42ff/1c,4302/1c,1f60/1c " ++
  "3313=42e1/1c,0/1c/37,4303/1c,42ea/1c,0/1c/37,1f60/1c 3314=42e1/1c,4305/1c " ++
  "3315=42e1/1c,4305/1c,42e2/1c,0/1c/37,4301/1c,42fb/1c " ++
  "3316=42e1/1c,4305/1c,42fc/1c,1f60/1c,42ee/1c,4303/1c " ++
  "3317=42e1/1c,4305/1c,4306/1c,42ec/1c,42ee/1c 3318=42e2/1c,0/1c/37,4301/1c,42fb/1c " ++
  "3319=42e2/1c,0/1c/37,4301/1c,42fb/1c,42ee/1c,430a/1c " ++
  "331a=42e2/1c,4303/1c,42e8/1c,0/1c/37,42db/1c,4305/1c 331b=42e2/1c,4305/1c,1f60/1c,42f2/1c " ++
  "331c=42e3/1c,1f60/1c,42e7/1c 331d=42e4/1c,4303/1c,42ef/1c 331e=42e4/1c,1f60/1c,42f8/1c,0/1c/38 " ++
  "331f=42e5/1c,42db/1c,42e2/1c,4303/1c 3320=42e5/1c,430a/1c,42eb/1c,1f60/1c,42fb/1c " ++
  "3321=42e6/1c,4302/1c,430a/1c,42e2/1c,0/1c/37 3322=42e8/1c,430a/1c,42eb/1c " ++
  "3323=42e8/1c,430a/1c,42ee/1c 3324=42ea/1c,0/1c/37,1f60/1c,42e7/1c 3325=42ed/1c,0/1c/37,42e6/1c " ++
  "3326=42ee/1c,0/1c/37,4303/1c 3327=42ee/1c,430a/1c 3328=42ef/1c,42f3/1c " ++
  "3329=42f3/1c,42ec/1c,42ee/1c 332a=42f4/1c,42db/1c,42ec/1c " ++
  "332b=42f4/1c,0/1c/38,1f60/1c,42e8/1c,430a/1c,42ee/1c 332c=42f4/1c,0/1c/38,1f60/1c,42ec/1c " ++
  "332d=42f4/1c,0/1c/37,1f60/1c,4304/1c,4303/1c " ++
  "332e=42f5/1c,0/1c/38,42da/1c,42e7/1c,42ee/1c,4303/1c 332f=42f5/1c,0/1c/38,42e2/1c,4303/1c " ++
  "3330=42f5/1c,0/1c/38,42e4/1c 3331=42f5/1c,0/1c/37,4303/1c " ++
  "3332=42f6/1c,42da/1c,4301/1c,42ec/1c,42ee/1c,0/1c/37 3333=42f6/1c,42db/1c,1f60/1c,42ee/1c " ++
  "3334=42f6/1c,0/1c/37,42ec/1c,42e6/1c,42de/1c,4303/1c 3335=42f6/1c,4301/1c,430a/1c " ++
  "3336=42f7/1c,42e2/1c,42ea/1c,1f60/1c,4303/1c 3337=42f7/1c,0/1c/38,42e9/1c " ++
  "3338=42f7/1c,0/1c/38,42f0/1c,42f5/1c 3339=42f7/1c,4303/1c,42ec/1c " ++
  "333a=42f7/1c,0/1c/38,430a/1c,42e7/1c 333b=42f7/1c,0/1c/38,1f60/1c,42e6/1c,0/1c/37 " ++
  "333c=42f7/1c,0/1c/37,1f60/1c,42ea/1c 333d=42f8/1c,0/1c/38,42db/1c,430a/1c,42ee/1c " ++
  "333e=42f8/1c,0/1c/37,4303/1c,42ee/1c 333f=42f8/1c,430a/1c " ++
  "3340=42f8/1c,0/1c/38,430a/1c,42ee/1c,0/1c/37 3341=42f8/1c,1f60/1c,4303/1c " ++
  "3342=42f8/1c,1f60/1c,430a/1c 3343=42f9/1c,42db/1c,42e2/1c,4305/1c 3344=42f9/1c,42db/1c,4303/1c " ++
  "3345=42f9/1c,42ec/1c,42f4/1c 3346=42f9/1c,4303/1c,42e2/1c " ++
  "3347=42f9/1c,430a/1c,42e6/1c,4300/1c,430a/1c 3348=42fa/1c,42e2/1c,4305/1c,430a/1c " ++
  "3349=42fa/1c,4302/1c 334a=42fa/1c,4302/1c,42f4/1c,0/1c/37,1f60/1c,4303/1c " ++
  "334b=42fc/1c,42e0/1c,0/1c/37 334c=42fc/1c,42e0/1c,0/1c/37,42ee/1c,430a/1c " ++
  "334d=42fc/1c,1f60/1c,42ee/1c,4303/1c 334e=42fe/1c,1f60/1c,42ee/1c,0/1c/37 " ++
  "334f=42fe/1c,1f60/1c,4303/1c 3350=42ff/1c,42da/1c,430a/1c 3351=4302/1c,42ec/1c,42ee/1c,4303/1c " ++
  "3352=4302/1c,4301/1c 3353=4303/1c,42f5/1c,0/1c/38,1f60/1c " ++
  "3354=4303/1c,1f60/1c,42f6/1c,0/1c/37,4303/1c 3355=4304/1c,42fb/1c " ++
  "3356=4304/1c,430a/1c,42ee/1c,42e3/1c,0/1c/37,430a/1c 3357=4306/1c,42ec/1c,42ee/1c " ++
  "3358=1f98/4,fb40/4,f0b9/0/0 3359=1f99/4,fb40/4,f0b9/0/0 335a=1f9a/4,fb40/4,f0b9/0/0 " ++
  "335b=1f9b/4,fb40/4,f0b9/0/0 335c=1f9c/4,fb40/4,f0b9/0/0 335d=1f9d/4,fb40/4,f0b9/0/0 " ++
  "335e=1f9e/4,fb40/4,f0b9/0/0 335f=1f9f/4,fb40/4,f0b9/0/0 3360=1fa0/4,fb40/4,f0b9/0/0 " ++
  "3361=1fa1/4,fb40/4,f0b9/0/0 3362=1f99/4,1f98/4,fb40/4,f0b9/0/0 " ++
  "3363=1f99/4,1f99/4,fb40/4,f0b9/0/0 3364=1f99/4,1f9a/4,fb40/4,f0b9/0/0 " ++
  "3365=1f99/4,1f9b/4,fb40/4,f0b9/0/0 3366=1f99/4,1f9c/4,fb40/4,f0b9/0/0 " ++
  "3367=1f99/4,1f9d/4,fb40/4,f0b9/0/0 3368=1f99/4,1f9e/4,fb40/4,f0b9/0/0 " ++
  "3369=1f99/4,1f9f/4,fb40/4,f0b9/0/0 336a=1f99/4,1fa0/4,fb40/4,f0b9/0/0 " ++
  "336b=1f99/4,1fa1/4,fb40/4,f0b9/0/0 336c=1f9a/4,1f98/4,fb40/4,f0b9/0/0 " ++
  "336d=1f9a/4,1f99/4,fb40/4,f0b9/0/0 336e=1f9a/4,1f9a/4,fb40/4,f0b9/0/0 " ++
  "336f=1f9a/4,1f9b/4,fb40/4,f0b9/0/0 3370=1f9a/4,1f9c/4,fb40/4,f0b9/0/0 " ++
  "3371=2075/1c,216b/1d,1fa2/1c 3372=1feb/1c,1fa2/1c 3373=1fa2/1d,2217/1d " ++
  "3374=1fbc/1c,1fa2/1c,2193/1c 3375=213c/1c,2247/1d 3376=216b/1c,1fd6/1c 3377=1feb/1c,2109/1c " ++
  "3378=1feb/1c,2109/1c,1f9a/1c 3379=1feb/1c,2109/1c,1f9b/1c 337a=2090/1d,2217/1d " ++
  "337b=fb40/1c,de73/0/0,fb40/1c,e210/0/0 337c=fb40/1c,e62d/0/0,fb40/1c,d48c/0/0 " ++
  "337d=fb40/1c,d927/0/0,fb40/1c,eb63/0/0 337e=fb40/1c,e60e/0/0,fb40/1c,ecbb/0/0 " ++
  "337f=fb40/1c,e82a/0/0,fb40/1c,df0f/0/0,fb40/1c,cf1a/0/0,fb40/1c,f93e/0/0 3380=216b/1c,1fa2/1d " ++
  "3381=2118/1c,1fa2/1d 3382=2330/1c,1fa2/1d 3383=2109/1c,1fa2/1d 3384=20c4/1c,1fa2/1d " ++
  "3385=20c4/1d,1fbc/1d 3386=2109/1d,1fbc/1d 3387=2051/1d,1fbc/1d 3388=1fd6/1c,1fa2/1c,20d6/1c " ++
  "3389=20c4/1c,1fd6/1c,1fa2/1c,20d6/1c 338a=216b/1c,2042/1d 338b=2118/1c,2042/1d " ++
  "338c=2330/1c,2042/1d 338d=2330/1c,2051/1c 338e=2109/1c,2051/1c 338f=20c4/1c,2051/1c " ++
  "3390=2075/1d,2286/1c 3391=20c4/1c,2075/1d,2286/1c 3392=2109/1d,2075/1d,2286/1c " ++
  "3393=2051/1d,2075/1d,2286/1c 3394=21f7/1d,2075/1d,2286/1c 3395=2330/1c,20d6/1c " ++
  "3396=2109/1c,20d6/1c 3397=1feb/1c,20d6/1c 3398=20c4/1c,20d6/1c 3399=2042/1c,2109/1c " ++
  "339a=2118/1c,2109/1c 339b=2330/1c,2109/1c 339c=2109/1c,2109/1c 339d=1fd6/1c,2109/1c " ++
  "339e=20c4/1c,2109/1c 339f=2109/1c,2109/1c,1f9a/1c 33a0=1fd6/1c,2109/1c,1f9a/1c " ++
  "33a1=2109/1c,1f9a/1c 33a2=20c4/1c,2109/1c,1f9a/1c 33a3=2109/1c,2109/1c,1f9b/1c " ++
  "33a4=1fd6/1c,2109/1c,1f9b/1c 33a5=2109/1c,1f9b/1c 33a6=20c4/1c,2109/1c,1f9b/1c " ++
  "33a7=2109/1c,675/1c,21d2/1c 33a8=2109/1c,675/1c,21d2/1c,1f9a/1c 33a9=216b/1d,1fa2/1c " ++
  "33aa=20c4/1c,216b/1d,1fa2/1c 33ab=2109/1d,216b/1d,1fa2/1c 33ac=2051/1d,216b/1d,1fa2/1c " ++
  "33ad=2193/1c,1fa2/1c,1feb/1c 33ae=2193/1c,1fa2/1c,1feb/1c,675/1c,21d2/1c " ++
  "33af=2193/1c,1fa2/1c,1feb/1c,675/1c,21d2/1c,1f9a/1c 33b0=216b/1c,21d2/1c 33b1=2118/1c,21d2/1c " ++
  "33b2=2330/1c,21d2/1c 33b3=2109/1c,21d2/1c 33b4=216b/1c,2247/1d 33b5=2118/1c,2247/1d " ++
  "33b6=2330/1c,2247/1d 33b7=2109/1c,2247/1d 33b8=20c4/1c,2247/1d 33b9=2109/1d,2247/1d " ++
  "33ba=216b/1c,2259/1d 33bb=2118/1c,2259/1d 33bc=2330/1c,2259/1d 33bd=2109/1c,2259/1d " ++
  "33be=20c4/1c,2259/1d 33bf=2109/1d,2259/1d 33c0=20c4/1c,2346/1d 33c1=2109/1d,2346/1d " ++
  "33c2=1fa2/1c,27e/1c,2109/1c,27e/1c 33c3=1fbc/1d,2180/1c 33c4=1fd6/1c,1fd6/1c " ++
  "33c5=1fd6/1c,1feb/1c 33c6=1fd6/1d,675/1c,20c4/1c,2051/1c 33c7=1fd6/1d,213c/1c,27e/1c " ++
  "33c8=1feb/1c,1fbc/1d 33c9=2051/1d,2270/1c 33ca=2075/1c,1fa2/1c 33cb=2075/1d,216b/1d " ++
  "33cc=2090/1c,2118/1c 33cd=20c4/1d,20c4/1d 33ce=20c4/1d,2109/1d 33cf=20c4/1c,21f7/1c " ++
  "33d0=20d6/1c,2109/1c 33d1=20d6/1c,2118/1c 33d2=20d6/1c,213c/1c,2051/1c 33d3=20d6/1c,2264/1c " ++
  "33d4=2109/1c,1fbc/1c 33d5=2109/1c,2090/1c,20d6/1c 33d6=2109/1c,213c/1c,20d6/1c " ++
  "33d7=216b/1d,2075/1d 33d8=216b/1c,27e/1c,2109/1c,27e/1c 33d9=216b/1d,216b/1d,2109/1d " ++
  "33da=216b/1d,2193/1d 33db=21d2/1c,2193/1c 33dc=21d2/1d,2247/1c 33dd=2259/1d,1fbc/1c " ++
  "33de=2247/1d,675/1c,2109/1c 33df=1fa2/1d,675/1c,2109/1c 33e0=1f99/4,fb40/4,e5e5/0/0 " ++
  "33e1=1f9a/4,fb40/4,e5e5/0/0 33e2=1f9b/4,fb40/4,e5e5/0/0 33e3=1f9c/4,fb40/4,e5e5/0/0 " ++
  "33e4=1f9d/4,fb40/4,e5e5/0/0 33e5=1f9e/4,fb40/4,e5e5/0/0 33e6=1f9f/4,fb40/4,e5e5/0/0 " ++
  "33e7=1fa0/4,fb40/4,e5e5/0/0 33e8=1fa1/4,fb40/4,e5e5/0/0 33e9=1f99/4,1f98/4,fb40/4,e5e5/0/0 " ++
  "33ea=1f99/4,1f99/4,fb40/4,e5e5/0/0 33eb=1f99/4,1f9a/4,fb40/4,e5e5/0/0 " ++
  "33ec=1f99/4,1f9b/4,fb40/4,e5e5/0/0 33ed=1f99/4,1f9c/4,fb40/4,e5e5/0/0 " ++
  "33ee=1f99/4,1f9d/4,fb40/4,e5e5/0/0 33ef=1f99/4,1f9e/4,fb40/4,e5e5/0/0 " ++
  "33f0=1f99/4,1f9f/4,fb40/4,e5e5/0/0 33f1=1f99/4,1fa0/4,fb40/4,e5e5/0/0 " ++
  "33f2=1f99/4,1fa1/4,fb40/4,e5e5/0/0 33f3=1f9a/4,1f98/4,fb40/4,e5e5/0/0 " ++
  "33f4=1f9a/4,1f99/4,fb40/4,e5e5/0/0 33f5=1f9a/4,1f9a/4,fb40/4,e5e5/0/0 " ++
  "33f6=1f9a/4,1f9b/4,fb40/4,e5e5/0/0 33f7=1f9a/4,1f9c/4,fb40/4,e5e5/0/0 " ++
  "33f8=1f9a/4,1f9d/4,fb40/4,e5e5/0/0 33f9=1f9a/4,1f9e/4,fb40/4,e5e5/0/0 " ++
  "33fa=1f9a/4,1f9f/4,fb40/4,e5e5/0/0 33fb=1f9a/4,1fa0/4,fb40/4,e5e5/0/0 " ++
  "33fc=1f9a/4,1fa1/4,fb40/4,e5e5/0/0 33fd=1f9b/4,1f98/4,fb40/4,e5e5/0/0 " ++
  "33fe=1f9b/4,1f99/4,fb40/4,e5e5/0/0 33ff=2051/1c,1fa2/1c,20d6/1c 4dc0+40=ff6"

/-- Elements: Yi and the scripts after it, presentation forms. -/
def yiToForms : String :=
  "a000+48d=4461 a490+37=108d a4d0+1a=48f4 a4ea=4910 a4eb=490e a4ec=4911 a4ed=490f a4ee+a=4913 " ++
  "a4f8+4=48ee a4fc=48f3 a4fd=48f2 a4fe=232 a4ff=28c a500+10d=3cb9 a60d=233 a60e=28d a60f=277 " ++
  "a610=3d11/4 a611=3d23/4 a612=3d40/4 a613=3cc5/4,3dc4/4 a614=3cd7/4,3dc4/4 a615=3cec/4,3dc4/4 " ++
  "a616=3d00/4,3dc5/4 a617=3d0b/4,3dc4/4 a618=3d11/4,3dc5/4 a619=3d13/4,3dc5/4 a61a=3d19/4,3dc4/4 " ++
  "a61b=3d3e/4,3dc4/4 a61c=3d6d/4,3dc4/4 a61d=3d84/4,3dc4/4 a61e=3d8a/4,3dc5/4 a61f=3d91/4,3dc4/4 " ++
  "a620+a=1f98 a62a=3d27/4 a62b=3d8a/4 a640=23d5/8 a641=23d5 a642=23d8/8 a643=23d8 a644=23dd/8 " ++
  "a645=23dd a646=23f1/8 a647=23f1 a648=23fa/8 a649=23fa a64a=248e/8 a64b=248e a64c=24b5/8 " ++
  "a64d=24b5 a64e=24f1/8 a64f=24f1 a650=24f8/8 a651=24f8 a652=2509/8 a653=2509 a654=2512/8 " ++
  "a655=2512 a656=2513/8 a657=2513 a658=2521/8 a659=2521 a65a=2526/8 a65b=2526 a65c=252b/8 " ++
  "a65d=252b a65e=2540/8 a65f=2540 a660=24c2/8 a661=24c2 a662=23b9/8 a663=23b9 a664=2425/8 " ++
  "a665=2425 a666=2430/8 a667=2430 a668=244c/a a669=244c/4 a66a=244c/a a66b=244c/4 a66c=244c/a " ++
  "a66d*2=244c/4 a66f=0/2/51 a670*3=0/0/0 a673=3a5 a674=23c3/4 a675=23e5/4 a676=23ed/4,0/4/2b " ++
  "a677=2482/4 a678=24f4/4 a679=24f9/4 a67a=24fd/4 a67b=24ad/4 a67c*2=0/2/33 a67e=3e3 a67f=24f3 " ++
  "a680=23b4/8 a681=23b4 a682=23e4/8 a683=23e4 a684=23cc/8 a685=23cc a686=24db/8 a687=24db " ++
  "a688=23e2/8 a689=23e2 a68a=247d/8 a68b=247d a68c=2477/8 a68d=2477 a68e=24c3/8 a68f=24c3 " ++
  "a690=24c8/8 a691=24c8 a692=24ce/8 a693=24ce a694=24ac/8 a695=24ac a696=24ec/8 a697=24ec " ++
  "a698=244c/a a699=244c/4 a69a=244c/a a69b=244c/4 a69c=24f4/14 a69d=24fd/14 a69e=2493/4 " ++
  "a69f=2519/4 a6a0+50=3dc6 a6f0=0/2/b6 a6f1=0/2/b7 a6f2=2e0 a6f3=28e a6f4=266 a6f5=234 a6f6=23e " ++
  "a6f7=278 a700+22=504 a722=22e6/8 a723=22e6 a724=22f1/8 a725=22f1 a726=2089/8 a727=2089 " ++
  "a728=21f7/a,2286/4 a729=21f7/4,2286/4 a72a=22cb/8 a72b=22cb a72c=22cc/8 a72d=22cc a72e=22cd/8 " ++
  "a72f=22cd a730=2046 a731=21d6 a732=1fa2/a,1fa2/a a733=1fa2/4,1fa2/4 a734=1fa2/a,213c/a " ++
  "a735=1fa2/4,213c/4 a736=1fa2/a,2217/a a737=1fa2/4,2217/4 a738=1fa2/a,2247/a a739=1fa2/4,2247/4 " ++
  "a73a=1fa2/a,0/4/118,2247/a a73b=1fa2/4,0/4/118,2247/4 a73c=1fa2/a,2270/a a73d=1fa2/4,2270/4 " ++
  "a73e=1fea/8 a73f=1fea a740=20cf/8 a741=20cf a742=20d0/8 a743=20d0 a744=20d1/8 a745=20d1 " ++
  "a746=20de/8 a747=20de a748=20e0/8 a749=20e0 a74a=2160/8 a74b=2160 a74c=2158/8 a74d=2158 " ++
  "a74e=213c/a,213c/a a74f=213c/4,213c/4 a750=2171/8 a751=2171 a752=2178/8 a753=2178 a754=2179/8 " ++
  "a755=2179 a756=2185/8 a757=2185 a758=2186/8 a759=2186 a75a=219d/8 a75b=219d a75c=21d1/8 " ++
  "a75d=21d1 a75e=224c/8 a75f=224c a760=2247/a,2270/a a761=2247/4,2270/4 a762=22a2/8 a763=22a2 " ++
  "a764=22b9/8 a765=22b9 a766=22ba/8 a767=22ba a768=22bf/8 a769=22bf a76a=22c3/8 a76b=22c3 " ++
  "a76c=22c4/8 a76d=22c4 a76e=22c5/8 a76f=22c5 a770=22c5/14 a771=2005 a772=20fb a773=2117 " ++
  "a774=2136 a775+2=21cf a777=2212 a778=22c6 a779=1feb/a,0/4/119 a77a=1feb/4,0/4/119 " ++
  "a77b=2042/a,0/4/119 a77c=2042/4,0/4/119 a77d=2051/a,0/4/119 a77e=206c/8 a77f=206c a780=2100/8 " ++
  "a781=2100 a782=2193/a,0/4/119 a783=2193/4,0/4/119 a784=21d2/a,0/4/119 a785=21d2/4,0/4/119 " ++
  "a786=21f7/a,0/4/119 a787=21f7/4,0/4/119 a788+3=526 a78b=22e7/8 a78c=22e7 a78d=222c/8 a78e=20f6 " ++
  "a78f=22e8 a790=212b/8 a791=212b a792=1fdf/8 a793+2=1fdf a795=2081 a796=1fcb/8 a797=1fcb " ++
  "a798=2048/8 a799=2048 a79a=1fa2/a,0/4/2b a79b=1fa2/4,0/4/2b a79c=213c/a,0/4/2b " ++
  "a79d=213c/4,0/4/2b a79e=2217/a,0/4/2b a79f=2217/4,0/4/2b a7a0=2051/a,0/4/35 a7a1=2051/4,0/4/35 " ++
  "a7a2=20c4/a,0/4/35 a7a3=20c4/4,0/4/35 a7a4=2118/a,0/4/35 a7a5=2118/4,0/4/35 a7a6=2193/a,0/4/35 " ++
  "a7a7=2193/4,0/4/35 a7a8=21d2/a,0/4/35 a7a9=21d2/4,0/4/35 a7aa=2082/8 a7ab=202c/8 a7ac=2055/8 " ++
  "a7ad=20ec/8 a7ae=2098/8 a7b0=20d2/8 a7b1=2213/8 a7b2=20b8/8 a7b3=226d/8 a7b4=1fd5/8 a7b5=1fd5 " ++
  "a7b6=2165/8 a7b7=2165 a7f7=209d a7f8=2075/14,0/14/39 a7f9=213c/14,0/14/118,2007/14 a7fa=223c " ++
  "a7fb=2050 a7fc=217a a7fd=2115 a7fe=209c a7ff=2116 a800+7=2cdc a807+4=2ce4 a80b=0/2/c4 " ++
  "a80c+1c=2ce8 a828+4=56c a830+6=1d62 a836+2=570 a838=1f6f a839=572 a840+8=3420 a848+c=342c " ++
  "a854+4=3439 a858=343f a859+2=3442 a85b+2=3445 a85d=3449 a85e+4=344e a862+4=344a a866=3452 " ++
  "a867=3438 a868=343d a869+4=3428 a86d=343e a86e=3444 a86f+2=3447 a871+2=3440 a873=3453 " ++
  "a874+2=454 a876+2=29c a880=0/2/c4 a881=0/2/c5 a882+43=2d04 a8c5=0/2/c3 a8ce+2=298 a8d0+a=1f98 " ++
  "a8e0*12=0/0/0 a8f2=2a21 a8f3*5=2a21/4 a8f8+3=401 a8fb=2a22 a8fc=404 a8fd=29d8 a900+a=1f98 " ++
  "a90a+21=354b a92b=0/2/e4 a92c=0/2/e5 a92d=0/2/e6 a92e=45a a92f=2a0 a930+24=3527 a95f=2e1 " ++
  "a960+1d=41d4 a980=0/2/c3 a981=0/2/c4 a982=0/2/ca a983=0/2/c5 a984+27=37fc a9ab=3824 " ++
  "a9ac=3824/4 a9ad+6=3826 a9b3=0/2/c2 a9b4=382c a9b5=382c/4 a9b6+4=382e a9ba+2=3833 a9bc=382d " ++
  "a9bd=3832 a9be=3823 a9bf=3825 a9c0=3835 a9c1+6=2d6 a9c7=262 a9c8+2=2ab a9ca+4=2dc a9cf=1f4d " ++
  "a9d0+a=1f98 a9de+2=45b a9e0=3575 a9e1=357d a9e2=3587 a9e3=359d a9e4=35b6 a9e5=3600 a9e6=1f4e " ++
  "a9e7=358f a9e8=35b1 a9e9=3573 a9ea=3576 a9eb=3582 a9ec=3589 a9ed=3597 a9ee=359a a9ef=359e " ++
  "a9f0+a=1f98 a9fa=35d2 a9fb=35a3 a9fc=35a6 a9fd=35b4 a9fe=35b7 aa00+29=3771 aa29+a=379e " ++
  "aa33+4=379a aa40+e=37a8 aa50+a=1f98 aa5c=45d aa5d+3=2ad aa60=3572 aa61=357b aa62=357e " ++
  "aa63=3581 aa64=3588 aa65=358e aa66=3592 aa67=3594 aa68=3596 aa69=3599 aa6a=35a5 aa6b=35a9 " ++
  "aa6c=35ca aa6d=35cd aa6e=35cf aa6f=35af aa70=1f4f aa71=35d0 aa72=3584 aa73=35bd aa74+3=3618 " ++
  "aa77+3=59b aa7a=35be aa7b+3=3615 aa7e=357f aa7f=358b aa80+36=3296 aab5,aa80=3296,32cb " ++
  "aab5,aa81=3297,32cb aab5,aa82=3298,32cb aab5,aa83=3299,32cb aab5,aa84=329a,32cb " ++
  "aab5,aa85=329b,32cb aab5,aa86=329c,32cb aab5,aa87=329d,32cb aab5,aa88=329e,32cb " ++
  "aab5,aa89=329f,32cb aab5,aa8a=32a0,32cb aab5,aa8b=32a1,32cb aab5,aa8c=32a2,32cb " ++
  "aab5,aa8d=32a3,32cb aab5,aa8e=32a4,32cb aab5,aa8f=32a5,32cb aab5,aa90=32a6,32cb " ++
  "aab5,aa91=32a7,32cb aab5,aa92=32a8,32cb aab5,aa93=32a9,32cb aab5,aa94=32aa,32cb " ++
  "aab5,aa95=32ab,32cb aab5,aa96=32ac,32cb aab5,aa97=32ad,32cb aab5,aa98=32ae,32cb " ++
  "aab5,aa99=32af,32cb aab5,aa9a=32b0,32cb aab5,aa9b=32b1,32cb aab5,aa9c=32b2,32cb " ++
  "aab5,aa9d=32b3,32cb aab5,aa9e=32b4,32cb aab5,aa9f=32b5,32cb aab5,aaa0=32b6,32cb " ++
  "aab5,aaa1=32b7,32cb aab5,aaa2=32b8,32cb aab5,aaa3=32b9,32cb aab5,aaa4=32ba,32cb " ++
  "aab5,aaa5=32bb,32cb aab5,aaa6=32bc,32cb aab5,aaa7=32bd,32cb aab5,aaa8=32be,32cb " ++
  "aab5,aaa9=32bf,32cb aab5,aaaa=32c0,32cb aab5,aaab=32c1,32cb aab5,aaac=32c2,32cb " ++
  "aab5,aaad=32c3,32cb aab5,aaae=32c4,32cb aab5,aaaf=32c5,32cb aab6=32cc aab6,aa80=3296,32cc " ++
  "aab6,aa81=3297,32cc aab6,aa82=3298,32cc aab6,aa83=3299,32cc aab6,aa84=329a,32cc " ++
  "aab6,aa85=329b,32cc aab6,aa86=329c,32cc aab6,aa87=329d,32cc aab6,aa88=329e,32cc " ++
  "aab6,aa89=329f,32cc aab6,aa8a=32a0,32cc aab6,aa8b=32a1,32cc aab6,aa8c=32a2,32cc " ++
  "aab6,aa8d=32a3,32cc aab6,aa8e=32a4,32cc aab6,aa8f=32a5,32cc aab6,aa90=32a6,32cc " ++
  "aab6,aa91=32a7,32cc aab6,aa92=32a8,32cc aab6,aa93=32a9,32cc aab6,aa94=32aa,32cc " ++
  "aab6,aa95=32ab,32cc aab6,aa96=32ac,32cc aab6,aa97=32ad,32cc aab6,aa98=32ae,32cc " ++
  "aab6,aa99=32af,32cc aab6,aa9a=32b0,32cc aab6,aa9b=32b1,32cc aab6,aa9c=32b2,32cc " ++
  "aab6,aa9d=32b3,32cc aab6,aa9e=32b4,32cc aab6,aa9f=32b5,32cc aab6,aaa0=32b6,32cc " ++
  "aab6,aaa1=32b7,32cc aab6,aaa2=32b8,32cc aab6,aaa3=32b9,32cc aab6,aaa4=32ba,32cc " ++
  "aab6,aaa5=32bb,32cc aab6,aaa6=32bc,32cc aab6,aaa7=32bd,32cc aab6,aaa8=32be,32cc " ++
  "aab6,aaa9=32bf,32cc aab6,aaaa=32c0,32cc aab6,aaab=32c1,32cc aab6,aaac=32c2,32cc " ++
  "aab6,aaad=32c3,32cc aab6,aaae=32c4,32cc aab6,aaaf=32c5,32cc aab7+3=32cd aab9,aa80=3296,32cf " ++
  "aab9,aa81=3297,32cf aab9,aa82=3298,32cf aab9,aa83=3299,32cf aab9,aa84=329a,32cf " ++
  "aab9,aa85=329b,32cf aab9,aa86=329c,32cf aab9,aa87=329d,32cf aab9,aa88=329e,32cf " ++
  "aab9,aa89=329f,32cf aab9,aa8a=32a0,32cf aab9,aa8b=32a1,32cf aab9,aa8c=32a2,32cf " ++
  "aab9,aa8d=32a3,32cf aab9,aa8e=32a4,32cf aab9,aa8f=32a5,32cf aab9,aa90=32a6,32cf " ++
  "aab9,aa91=32a7,32cf aab9,aa92=32a8,32cf aab9,aa93=32a9,32cf aab9,aa94=32aa,32cf " ++
  "aab9,aa95=32ab,32cf aab9,aa96=32ac,32cf aab9,aa97=32ad,32cf aab9,aa98=32ae,32cf " ++
  "aab9,aa99=32af,32cf aab9,aa9a=32b0,32cf aab9,aa9b=32b1,32cf aab9,aa9c=32b2,32cf " ++
  "aab9,aa9d=32b3,32cf aab9,aa9e=32b4,32cf aab9,aa9f=32b5,32cf aab9,aaa0=32b6,32cf " ++
  "aab9,aaa1=32b7,32cf aab9,aaa2=32b8,32cf aab9,aaa3=32b9,32cf aab9,aaa4=32ba,32cf " ++
  "aab9,aaa5=32bb,32cf aab9,aaa6=32bc,32cf aab9,aaa7=32bd,32cf aab9,aaa8=32be,32cf " ++
  "aab9,aaa9=32bf,32cf aab9,aaaa=32c0,32cf aab9,aaab=32c1,32cf aab9,aaac=32c2,32cf " ++
  "aab9,aaad=32c3,32cf aab9,aaae=32c4,32cf aab9,aaaf=32c5,32cf aaba+2=32d0 aabb,aa80=3296,32d1 " ++
  "aabb,aa81=3297,32d1 aabb,aa82=3298,32d1 aabb,aa83=3299,32d1 aabb,aa84=329a,32d1 " ++
  "aabb,aa85=329b,32d1 aabb,aa86=329c,32d1 aabb,aa87=329d,32d1 aabb,aa88=329e,32d1 " ++
  "aabb,aa89=329f,32d1 aabb,aa8a=32a0,32d1 aabb,aa8b=32a1,32d1 aabb,aa8c=32a2,32d1 " ++
  "aabb,aa8d=32a3,32d1 aabb,aa8e=32a4,32d1 aabb,aa8f=32a5,32d1 aabb,aa90=32a6,32d1 " ++
  "aabb,aa91=32a7,32d1 aabb,aa92=32a8,32d1 aabb,aa93=32a9,32d1 aabb,aa94=32aa,32d1 " ++
  "aabb,aa95=32ab,32d1 aabb,aa96=32ac,32d1 aabb,aa97=32ad,32d1 aabb,aa98=32ae,32d1 " ++
  "aabb,aa99=32af,32d1 aabb,aa9a=32b0,32d1 aabb,aa9b=32b1,32d1 aabb,aa9c=32b2,32d1 " ++
  "aabb,aa9d=32b3,32d1 aabb,aa9e=32b4,32d1 aabb,aa9f=32b5,32d1 aabb,aaa0=32b6,32d1 " ++
  "aabb,aaa1=32b7,32d1 aabb,aaa2=32b8,32d1 aabb,aaa3=32b9,32d1 aabb,aaa4=32ba,32d1 " ++
  "aabb,aaa5=32bb,32d1 aabb,aaa6=32bc,32d1 aabb,aaa7=32bd,32d1 aabb,aaa8=32be,32d1 " ++
  "aabb,aaa9=32bf,32d1 aabb,aaaa=32c0,32d1 aabb,aaab=32c1,32d1 aabb,aaac=32c2,32d1 " ++
  "aabb,aaad=32c3,32d1 aabb,aaae=32c4,32d1 aabb,aaaf=32c5,32d1 aabc=32d2 aabc,aa80=3296,32d2 " ++
  "aabc,aa81=3297,32d2 aabc,aa82=3298,32d2 aabc,aa83=3299,32d2 aabc,aa84=329a,32d2 " ++
  "aabc,aa85=329b,32d2 aabc,aa86=329c,32d2 aabc,aa87=329d,32d2 aabc,aa88=329e,32d2 " ++
  "aabc,aa89=329f,32d2 aabc,aa8a=32a0,32d2 aabc,aa8b=32a1,32d2 aabc,aa8c=32a2,32d2 " ++
  "aabc,aa8d=32a3,32d2 aabc,aa8e=32a4,32d2 aabc,aa8f=32a5,32d2 aabc,aa90=32a6,32d2 " ++
  "aabc,aa91=32a7,32d2 aabc,aa92=32a8,32d2 aabc,aa93=32a9,32d2 aabc,aa94=32aa,32d2 " ++
  "aabc,aa95=32ab,32d2 aabc,aa96=32ac,32d2 aabc,aa97=32ad,32d2 aabc,aa98=32ae,32d2 " ++
  "aabc,aa99=32af,32d2 aabc,aa9a=32b0,32d2 aabc,aa9b=32b1,32d2 aabc,aa9c=32b2,32d2 " ++
  "aabc,aa9d=32b3,32d2 aabc,aa9e=32b4,32d2 aabc,aa9f=32b5,32d2 aabc,aaa0=32b6,32d2 " ++
  "aabc,aaa1=32b7,32d2 aabc,aaa2=32b8,32d2 aabc,aaa3=32b9,32d2 aabc,aaa4=32ba,32d2 " ++
  "aabc,aaa5=32bb,32d2 aabc,aaa6=32bc,32d2 aabc,aaa7=32bd,32d2 aabc,aaa8=32be,32d2 " ++
  "aabc,aaa9=32bf,32d2 aabc,aaaa=32c0,32d2 aabc,aaab=32c1,32d2 aabc,aaac=32c2,32d2 " ++
  "aabc,aaad=32c3,32d2 aabc,aaae=32c4,32d2 aabc,aaaf=32c5,32d2 aabd+2=32d3 aabf=0/2/e1 aac0=32d5 " ++
  "aac1=0/2/e2 aac2=32d6 aadb+2=32d7 aadd=1f50 aade+2=40e aae0+b=2cb9 aaeb+5=2ccc aaf0=2b0 " ++
  "aaf1=279 aaf2=2c9d aaf3+2=1f51 aaf5=2cd1 aaf6=2cdb ab01+6=2852 ab09+6=2919 ab11+6=28fa " ++
  "ab20+7=295c ab28+7=2974 ab30=1fb5 ab31=1fac ab32+2=200c ab34=2013 ab35=2047 ab36=2059 " ++
  "ab37=20f0 ab38+2=20ea ab3a=2114 ab3b=2135 ab3c=213b ab3d=2142 ab3e=214e ab3f=2155 ab40=214a " ++
  "ab41+2=2148 ab43+2=214b ab45=2197 ab46=219c ab47+2=21c5 ab49=21bb ab4a+3=21c7 ab4d=21e8 " ++
  "ab4e=221c ab4f=2226 ab50+2=2220 ab52=222a ab53+3=226d ab56+4=2269 ab5a=2281 ab5b=529 " ++
  "ab5c=2089/14 ab5d=20f0/14 ab5e=20e6/14 ab5f=222a/14 ab60+2=22c0 ab62=2157 ab63=22c2 ab64=1fbb " ++
  "ab65=2347 ab70+50=38de abc0+1b=2c9e abdb+8=2cd2 abe3+8=2cc4 abeb=2b1 abec=0/2/cc abed=2cda " ++
  "abf0+a=1f98 d7b0+17=423a d7cb+31=42a9 fa0e=fb41,fa0e/0/0 fa0f=fb41,fa0f/0/0 fa11=fb41,fa11/0/0 " ++
  "fa13=fb41,fa13/0/0 fa14=fb41,fa14/0/0 fa1f=fb41,fa1f/0/0 fa21=fb41,fa21/0/0 fa23=fb41,fa23/0/0 " ++
  "fa24=fb41,fa24/0/0 fa27=fb41,fa27/0/0 fa28=fb41,fa28/0/0 fa29=fb41,fa29/0/0 fb00=2042/4,2042/4 " ++
  "fb01=2042/4,2090/4 fb02=2042/4,20d6/4 fb03=2042/4,2042/4,2090/4 fb04=2042/4,2042/4,20d6/4 " ++
  "fb05=21d2/4,0/4/119,21f7/4 fb06=21d2/4,21f7/4 fb13=2609/4,260c/4 fb14=2609/4,25fa/4 " ++
  "fb15=2609/4,2600/4 fb16=2614/4,260c/4 fb17=2609/4,2602/4 fb1e=0/2/61 fb20=262d/5 fb21=261e/5 " ++
  "fb22+2=2621/5 fb24+3=2628/5 fb27=2631/5 fb28=2633/5 fb29=666/5 fb4f=261e/4,2629/4 fb50=2668/1a " ++
  "fb51=2668/19 fb52=2675/1a fb53=2675/19 fb54=2675/17 fb55=2675/18 fb56=2676/1a fb57=2676/19 " ++
  "fb58=2676/17 fb59=2676/18 fb5a=2677/1a fb5b=2677/19 fb5c=2677/17 fb5d=2677/18 fb5e=2688/1a " ++
  "fb5f=2688/19 fb60=2688/17 fb61=2688/18 fb62=268b/1a fb63=268b/19 fb64=268b/17 fb65=268b/18 " ++
  "fb66=2687/1a fb67=2687/19 fb68=2687/17 fb69=2687/18 fb6a=26e9/1a fb6b=26e9/19 fb6c=26e9/17 " ++
  "fb6d=26e9/18 fb6e=26ec/1a fb6f=26ec/19 fb70=26ec/17 fb71=26ec/18 fb72=2691/1a fb73=2691/19 " ++
  "fb74=2691/17 fb75=2691/18 fb76=2690/1a fb77=2690/19 fb78=2690/17 fb79=2690/18 fb7a=2692/1a " ++
  "fb7b=2692/19 fb7c=2692/17 fb7d=2692/18 fb7e=2694/1a fb7f=2694/19 fb80=2694/17 fb81=2694/18 " ++
  "fb82=26ab/1a fb83=26ab/19 fb84=26aa/1a fb85=26aa/19 fb86=26ad/1a fb87=26ad/19 fb88=26a6/1a " ++
  "fb89=26a6/19 fb8a=26bc/1a fb8b=26bc/19 fb8c=26b5/1a fb8d=26b5/19 fb8e=26f7/1a fb8f=26f7/19 " ++
  "fb90=26f7/17 fb91=26f7/18 fb92=26ff/1a fb93=26ff/19 fb94=26ff/17 fb95=26ff/18 fb96=2704/1a " ++
  "fb97=2704/19 fb98=2704/17 fb99=2704/18 fb9a=2702/1a fb9b=2702/19 fb9c=2702/17 fb9d=2702/18 " ++
  "fb9e=2719/1a fb9f=2719/19 fba0=271b/1a fba1=271b/19 fba2=271b/17 fba3=271b/18 " ++
  "fba4=2727/1a,0/1a/83 fba5=2727/19,0/19/83 fba6=2724/1a fba7=2724/19 fba8=2724/17 fba9=2724/18 " ++
  "fbaa=2723/1a fbab=2723/19 fbac=2723/17 fbad=2723/18 fbae=2745/1a fbaf=2745/19 " ++
  "fbb0=2745/1a,0/1a/83 fbb1=2745/19,0/19/83 fbb2+10=536 fbd3=26fc/1a fbd4=26fc/19 fbd5=26fc/17 " ++
  "fbd6=26fc/18 fbd7=272c/1a fbd8=272c/19 fbd9=272b/1a fbda=272b/19 fbdb=272d/1a fbdc=272d/19 " ++
  "fbdd=272c/1a,2664/1a fbde=2730/1a fbdf=2730/19 fbe0=272a/1a fbe1=272a/19 fbe2=272e/1a " ++
  "fbe3=272e/19 fbe4=273b/1a fbe5=273b/19 fbe6=273b/17 fbe7=273b/18 fbe8=2736/17 fbe9=2736/18 " ++
  "fbea=266e/1a,2672/1a fbeb=266e/19,2672/19 fbec=266e/1a,2727/1a fbed=266e/19,2727/19 " ++
  "fbee=266e/1a,2728/1a fbef=266e/19,2728/19 fbf0=266e/1a,272c/1a fbf1=266e/19,272c/19 " ++
  "fbf2=266e/1a,272b/1a fbf3=266e/19,272b/19 fbf4=266e/1a,272d/1a fbf5=266e/19,272d/19 " ++
  "fbf6=266e/1a,273b/1a fbf7=266e/19,273b/19 fbf8=266e/17,273b/17 fbf9=266e/1a,2736/1a " ++
  "fbfa=266e/19,2736/19 fbfb=266e/17,2736/17 fbfc=2738/1a fbfd=2738/19 fbfe=2738/17 fbff=2738/18 " ++
  "fc00=266e/1a,268f/1a fc01=266e/1a,2699/1a fc02=266e/1a,2714/1a fc03=266e/1a,2736/1a " ++
  "fc04=266e/1a,2737/1a fc05=2674/1a,268f/1a fc06=2674/1a,2699/1a fc07=2674/1a,269a/1a " ++
  "fc08=2674/1a,2714/1a fc09=2674/1a,2736/1a fc0a=2674/1a,2737/1a fc0b=2685/1a,268f/1a " ++
  "fc0c=2685/1a,2699/1a fc0d=2685/1a,269a/1a fc0e=2685/1a,2714/1a fc0f=2685/1a,2736/1a " ++
  "fc10=2685/1a,2737/1a fc11=2686/1a,268f/1a fc12=2686/1a,2714/1a fc13=2686/1a,2736/1a " ++
  "fc14=2686/1a,2737/1a fc15=268f/1a,2699/1a fc16=268f/1a,2714/1a fc17=2699/1a,268f/1a " ++
  "fc18=2699/1a,2714/1a fc19=269a/1a,268f/1a fc1a=269a/1a,2699/1a fc1b=269a/1a,2714/1a " ++
  "fc1c=26c6/1a,268f/1a fc1d=26c6/1a,2699/1a fc1e=26c6/1a,269a/1a fc1f=26c6/1a,2714/1a " ++
  "fc20=26d1/1a,2699/1a fc21=26d1/1a,2714/1a fc22=26d2/1a,268f/1a fc23=26d2/1a,2699/1a " ++
  "fc24=26d2/1a,269a/1a fc25=26d2/1a,2714/1a fc26=26d7/1a,2699/1a fc27=26d7/1a,2714/1a " ++
  "fc28=26d8/1a,2714/1a fc29=26db/1a,268f/1a fc2a=26db/1a,2714/1a fc2b=26dc/1a,268f/1a " ++
  "fc2c=26dc/1a,2714/1a fc2d=26e4/1a,268f/1a fc2e=26e4/1a,2699/1a fc2f=26e4/1a,269a/1a " ++
  "fc30=26e4/1a,2714/1a fc31=26e4/1a,2736/1a fc32=26e4/1a,2737/1a fc33=26f0/1a,2699/1a " ++
  "fc34=26f0/1a,2714/1a fc35=26f0/1a,2736/1a fc36=26f0/1a,2737/1a fc37=26f6/1a,2672/1a " ++
  "fc38=26f6/1a,268f/1a fc39=26f6/1a,2699/1a fc3a=26f6/1a,269a/1a fc3b=26f6/1a,270c/1a " ++
  "fc3c=26f6/1a,2714/1a fc3d=26f6/1a,2736/1a fc3e=26f6/1a,2737/1a fc3f=270c/1a,268f/1a " ++
  "fc40=270c/1a,2699/1a fc41=270c/1a,269a/1a fc42=270c/1a,2714/1a fc43=270c/1a,2736/1a " ++
  "fc44=270c/1a,2737/1a fc45=2714/1a,268f/1a fc46=2714/1a,2699/1a fc47=2714/1a,269a/1a " ++
  "fc48=2714/1a,2714/1a fc49=2714/1a,2736/1a fc4a=2714/1a,2737/1a fc4b=2718/1a,268f/1a " ++
  "fc4c=2718/1a,2699/1a fc4d=2718/1a,269a/1a fc4e=2718/1a,2714/1a fc4f=2718/1a,2736/1a " ++
  "fc50=2718/1a,2737/1a fc51=2722/1a,268f/1a fc52=2722/1a,2714/1a fc53=2722/1a,2736/1a " ++
  "fc54=2722/1a,2737/1a fc55=2737/1a,268f/1a fc56=2737/1a,2699/1a fc57=2737/1a,269a/1a " ++
  "fc58=2737/1a,2714/1a fc59=2737/1a,2736/1a fc5a=2737/1a,2737/1a fc5b=26a5/1a,0/1a/98 " ++
  "fc5c=26b3/1a,0/1a/98 fc5d=2736/1a,0/1a/98 fc5e=0/1a/70,0/1a/80 fc5f=0/1a/73,0/1a/80 " ++
  "fc60=0/1a/76,0/1a/80 fc61=0/1a/7a,0/1a/80 fc62=0/1a/7d,0/1a/80 fc63=0/1a/80,0/1a/98 " ++
  "fc64=266e/19,26b3/19 fc65=266e/19,26b4/19 fc66=266e/19,2714/19 fc67=266e/19,2718/19 " ++
  "fc68=266e/19,2736/19 fc69=266e/19,2737/19 fc6a=2674/19,26b3/19 fc6b=2674/19,26b4/19 " ++
  "fc6c=2674/19,2714/19 fc6d=2674/19,2718/19 fc6e=2674/19,2736/19 fc6f=2674/19,2737/19 " ++
  "fc70=2685/19,26b3/19 fc71=2685/19,26b4/19 fc72=2685/19,2714/19 fc73=2685/19,2718/19 " ++
  "fc74=2685/19,2736/19 fc75=2685/19,2737/19 fc76=2686/19,26b3/19 fc77=2686/19,26b4/19 " ++
  "fc78=2686/19,2714/19 fc79=2686/19,2718/19 fc7a=2686/19,2736/19 fc7b=2686/19,2737/19 " ++
  "fc7c=26e4/19,2736/19 fc7d=26e4/19,2737/19 fc7e=26f0/19,2736/19 fc7f=26f0/19,2737/19 " ++
  "fc80=26f6/19,2672/19 fc81=26f6/19,270c/19 fc82=26f6/19,2714/19 fc83=26f6/19,2736/19 " ++
  "fc84=26f6/19,2737/19 fc85=270c/19,2714/19 fc86=270c/19,2736/19 fc87=270c/19,2737/19 " ++
  "fc88=2714/19,2672/19 fc89=2714/19,2714/19 fc8a=2718/19,26b3/19 fc8b=2718/19,26b4/19 " ++
  "fc8c=2718/19,2714/19 fc8d=2718/19,2718/19 fc8e=2718/19,2736/19 fc8f=2718/19,2737/19 " ++
  "fc90=2736/19,0/19/98 fc91=2737/19,26b3/19 fc92=2737/19,26b4/19 fc93=2737/19,2714/19 " ++
  "fc94=2737/19,2718/19 fc95=2737/19,2736/19 fc96=2737/19,2737/19 fc97=266e/17,268f/17 " ++
  "fc98=266e/17,2699/17 fc99=266e/17,269a/17 fc9a=266e/17,2714/17 fc9b=266e/17,2722/17 " ++
  "fc9c=2674/17,268f/17 fc9d=2674/17,2699/17 fc9e=2674/17,269a/17 fc9f=2674/17,2714/17 " ++
  "fca0=2674/17,2722/17 fca1=2685/17,268f/17 fca2=2685/17,2699/17 fca3=2685/17,269a/17 " ++
  "fca4=2685/17,2714/17 fca5=2685/17,2722/17 fca6=2686/17,2714/17 fca7=268f/17,2699/17 " ++
  "fca8=268f/17,2714/17 fca9=2699/17,268f/17 fcaa=2699/17,2714/17 fcab=269a/17,268f/17 " ++
  "fcac=269a/17,2714/17 fcad=26c6/17,268f/17 fcae=26c6/17,2699/17 fcaf=26c6/17,269a/17 " ++
  "fcb0=26c6/17,2714/17 fcb1=26d1/17,2699/17 fcb2=26d1/17,269a/17 fcb3=26d1/17,2714/17 " ++
  "fcb4=26d2/17,268f/17 fcb5=26d2/17,2699/17 fcb6=26d2/17,269a/17 fcb7=26d2/17,2714/17 " ++
  "fcb8=26d7/17,2699/17 fcb9=26d8/17,2714/17 fcba=26db/17,268f/17 fcbb=26db/17,2714/17 " ++
  "fcbc=26dc/17,268f/17 fcbd=26dc/17,2714/17 fcbe=26e4/17,268f/17 fcbf=26e4/17,2699/17 " ++
  "fcc0=26e4/17,269a/17 fcc1=26e4/17,2714/17 fcc2=26f0/17,2699/17 fcc3=26f0/17,2714/17 " ++
  "fcc4=26f6/17,268f/17 fcc5=26f6/17,2699/17 fcc6=26f6/17,269a/17 fcc7=26f6/17,270c/17 " ++
  "fcc8=26f6/17,2714/17 fcc9=270c/17,268f/17 fcca=270c/17,2699/17 fccb=270c/17,269a/17 " ++
  "fccc=270c/17,2714/17 fccd=270c/17,2722/17 fcce=2714/17,268f/17 fccf=2714/17,2699/17 " ++
  "fcd0=2714/17,269a/17 fcd1=2714/17,2714/17 fcd2=2718/17,268f/17 fcd3=2718/17,2699/17 " ++
  "fcd4=2718/17,269a/17 fcd5=2718/17,2714/17 fcd6=2718/17,2722/17 fcd7=2722/17,268f/17 " ++
  "fcd8=2722/17,2714/17 fcd9=2722/17,0/17/98 fcda=2737/17,268f/17 fcdb=2737/17,2699/17 " ++
  "fcdc=2737/17,269a/17 fcdd=2737/17,2714/17 fcde=2737/17,2722/17 fcdf=266e/18,2714/18 " ++
  "fce0=266e/18,2722/18 fce1=2674/18,2714/18 fce2=2674/18,2722/18 fce3=2685/18,2714/18 " ++
  "fce4=2685/18,2722/18 fce5=2686/18,2714/18 fce6=2686/18,2722/18 fce7=26c6/18,2714/18 " ++
  "fce8=26c6/18,2722/18 fce9=26c7/18,2714/18 fcea=26c7/18,2722/18 fceb=26f6/18,270c/18 " ++
  "fcec=26f6/18,2714/18 fced=270c/18,2714/18 fcee=2718/18,2714/18 fcef=2718/18,2722/18 " ++
  "fcf0=2737/18,2714/18 fcf1=2737/18,2722/18 fcf2=0/18/76,0/18/80 fcf3=0/18/7a,0/18/80 " ++
  "fcf4=0/18/7d,0/18/80 fcf5=26d7/1a,2736/1a fcf6=26d7/1a,2737/1a fcf7=26db/1a,2736/1a " ++
  "fcf8=26db/1a,2737/1a fcf9=26dc/1a,2736/1a fcfa=26dc/1a,2737/1a fcfb=26c6/1a,2736/1a " ++
  "fcfc=26c6/1a,2737/1a fcfd=26c7/1a,2736/1a fcfe=26c7/1a,2737/1a fcff=2699/1a,2736/1a " ++
  "fd00=2699/1a,2737/1a fd01=268f/1a,2736/1a fd02=268f/1a,2737/1a fd03=269a/1a,2736/1a " ++
  "fd04=269a/1a,2737/1a fd05=26d1/1a,2736/1a fd06=26d1/1a,2737/1a fd07=26d2/1a,2736/1a " ++
  "fd08=26d2/1a,2737/1a fd09=26c7/1a,268f/1a fd0a=26c7/1a,2699/1a fd0b=26c7/1a,269a/1a " ++
  "fd0c=26c7/1a,2714/1a fd0d=26c7/1a,26b3/1a fd0e=26c6/1a,26b3/1a fd0f=26d1/1a,26b3/1a " ++
  "fd10=26d2/1a,26b3/1a fd11=26d7/19,2736/19 fd12=26d7/19,2737/19 fd13=26db/19,2736/19 " ++
  "fd14=26db/19,2737/19 fd15=26dc/19,2736/19 fd16=26dc/19,2737/19 fd17=26c6/19,2736/19 " ++
  "fd18=26c6/19,2737/19 fd19=26c7/19,2736/19 fd1a=26c7/19,2737/19 fd1b=2699/19,2736/19 " ++
  "fd1c=2699/19,2737/19 fd1d=268f/19,2736/19 fd1e=268f/19,2737/19 fd1f=269a/19,2736/19 " ++
  "fd20=269a/19,2737/19 fd21=26d1/19,2736/19 fd22=26d1/19,2737/19 fd23=26d2/19,2736/19 " ++
  "fd24=26d2/19,2737/19 fd25=26c7/19,268f/19 fd26=26c7/19,2699/19 fd27=26c7/19,269a/19 " ++
  "fd28=26c7/19,2714/19 fd29=26c7/19,26b3/19 fd2a=26c6/19,26b3/19 fd2b=26d1/19,26b3/19 " ++
  "fd2c=26d2/19,26b3/19 fd2d=26c7/17,268f/17 fd2e=26c7/17,2699/17 fd2f=26c7/17,269a/17 " ++
  "fd30=26c7/17,2714/17 fd31=26c6/17,2722/17 fd32=26c7/17,2722/17 fd33=26d7/17,2714/17 " ++
  "fd34=26c6/18,268f/18 fd35=26c6/18,2699/18 fd36=26c6/18,269a/18 fd37=26c7/18,268f/18 " ++
  "fd38=26c7/18,2699/18 fd39=26c7/18,269a/18 fd3a=26d7/18,2714/18 fd3b=26d8/18,2714/18 " ++
  "fd3c=2672/19,0/19/6d fd3d=2672/1a,0/1a/6d fd3e+2=392 fd50=2685/17,268f/17,2714/17 " ++
  "fd51=2685/19,2699/19,268f/19 fd52=2685/17,2699/17,268f/17 fd53=2685/17,2699/17,2714/17 " ++
  "fd54=2685/17,269a/17,2714/17 fd55=2685/17,2714/17,268f/17 fd56=2685/17,2714/17,2699/17 " ++
  "fd57=2685/17,2714/17,269a/17 fd58=268f/19,2714/19,2699/19 fd59=268f/17,2714/17,2699/17 " ++
  "fd5a=2699/19,2714/19,2737/19 fd5b=2699/19,2714/19,2736/19 fd5c=26c6/17,2699/17,268f/17 " ++
  "fd5d=26c6/17,268f/17,2699/17 fd5e=26c6/19,268f/19,2736/19 fd5f=26c6/19,2714/19,2699/19 " ++
  "fd60=26c6/17,2714/17,2699/17 fd61=26c6/17,2714/17,268f/17 fd62=26c6/19,2714/19,2714/19 " ++
  "fd63=26c6/17,2714/17,2714/17 fd64=26d1/19,2699/19,2699/19 fd65=26d1/17,2699/17,2699/17 " ++
  "fd66=26d1/19,2714/19,2714/19 fd67=26c7/19,2699/19,2714/19 fd68=26c7/17,2699/17,2714/17 " ++
  "fd69=26c7/19,268f/19,2737/19 fd6a=26c7/19,2714/19,269a/19 fd6b=26c7/17,2714/17,269a/17 " ++
  "fd6c=26c7/19,2714/19,2714/19 fd6d=26c7/17,2714/17,2714/17 fd6e=26d2/19,2699/19,2736/19 " ++
  "fd6f=26d2/19,269a/19,2714/19 fd70=26d2/17,269a/17,2714/17 fd71=26d7/19,2714/19,2699/19 " ++
  "fd72=26d7/17,2714/17,2699/17 fd73=26d7/17,2714/17,2714/17 fd74=26d7/19,2714/19,2737/19 " ++
  "fd75=26db/19,268f/19,2714/19 fd76=26db/19,2714/19,2714/19 fd77=26db/17,2714/17,2714/17 " ++
  "fd78=26db/19,2714/19,2736/19 fd79=26dc/19,2714/19,2714/19 fd7a=26dc/19,2714/19,2737/19 " ++
  "fd7b=26dc/19,2714/19,2736/19 fd7c=26e4/19,269a/19,2714/19 fd7d=26e4/17,269a/17,2714/17 " ++
  "fd7e=26f0/19,2714/19,2699/19 fd7f=26f0/19,2714/19,2714/19 fd80=270c/19,2699/19,2714/19 " ++
  "fd81=270c/19,2699/19,2737/19 fd82=270c/19,2699/19,2736/19 fd83=270c/17,268f/17,268f/17 " ++
  "fd84=270c/19,268f/19,268f/19 fd85=270c/19,269a/19,2714/19 fd86=270c/17,269a/17,2714/17 " ++
  "fd87=270c/19,2714/19,2699/19 fd88=270c/17,2714/17,2699/17 fd89=2714/17,2699/17,268f/17 " ++
  "fd8a=2714/17,2699/17,2714/17 fd8b=2714/19,2699/19,2737/19 fd8c=2714/17,268f/17,2699/17 " ++
  "fd8d=2714/17,268f/17,2714/17 fd8e=2714/17,269a/17,268f/17 fd8f=2714/17,269a/17,2714/17 " ++
  "fd92=2714/17,268f/17,269a/17 fd93=2722/17,2714/17,268f/17 fd94=2722/17,2714/17,2714/17 " ++
  "fd95=2718/17,2699/17,2714/17 fd96=2718/19,2699/19,2736/19 fd97=2718/19,268f/19,2714/19 " ++
  "fd98=2718/17,268f/17,2714/17 fd99=2718/19,268f/19,2736/19 fd9a=2718/19,2714/19,2737/19 " ++
  "fd9b=2718/19,2714/19,2736/19 fd9c=2737/19,2714/19,2714/19 fd9d=2737/17,2714/17,2714/17 " ++
  "fd9e=2674/19,269a/19,2737/19 fd9f=2685/19,268f/19,2737/19 fda0=2685/19,268f/19,2736/19 " ++
  "fda1=2685/19,269a/19,2737/19 fda2=2685/19,269a/19,2736/19 fda3=2685/19,2714/19,2737/19 " ++
  "fda4=2685/19,2714/19,2736/19 fda5=268f/19,2714/19,2737/19 fda6=268f/19,2699/19,2736/19 " ++
  "fda7=268f/19,2714/19,2736/19 fda8=26c6/19,269a/19,2736/19 fda9=26d1/19,2699/19,2737/19 " ++
  "fdaa=26c7/19,2699/19,2737/19 fdab=26d2/19,2699/19,2737/19 fdac=270c/19,268f/19,2737/19 " ++
  "fdad=270c/19,2714/19,2737/19 fdae=2737/19,2699/19,2737/19 fdaf=2737/19,268f/19,2737/19 " ++
  "fdb0=2737/19,2714/19,2737/19 fdb1=2714/19,2714/19,2737/19 fdb2=26f0/19,2714/19,2737/19 " ++
  "fdb3=2718/19,2699/19,2737/19 fdb4=26f0/17,2714/17,2699/17 fdb5=270c/17,2699/17,2714/17 " ++
  "fdb6=26db/19,2714/19,2737/19 fdb7=26f6/19,2714/19,2737/19 fdb8=2718/17,268f/17,2699/17 " ++
  "fdb9=2714/19,269a/19,2737/19 fdba=270c/17,268f/17,2714/17 fdbb=26f6/19,2714/19,2714/19 " ++
  "fdbc=270c/19,268f/19,2714/19 fdbd=2718/19,268f/19,2699/19 fdbe=268f/19,2699/19,2737/19 " ++
  "fdbf=2699/19,268f/19,2737/19 fdc0=2714/19,268f/19,2737/19 fdc1=26e4/19,2714/19,2737/19 " ++
  "fdc2=2674/19,2699/19,2737/19 fdc3=26f6/17,2714/17,2714/17 fdc4=26db/17,268f/17,2714/17 " ++
  "fdc5=26d1/17,2714/17,2714/17 fdc6=26c6/19,269a/19,2737/19 fdc7=2718/19,268f/19,2737/19 " ++
  "fdf0=26d1/1a,270c/1a,2745/1a fdf1=26f0/1a,270c/1a,2745/1a fdf2=2672/1a,270c/1a,270c/1a,2722/1a " ++
  "fdf3=2672/1a,26f6/1a,2674/1a,26b3/1a fdf4=2714/1a,2699/1a,2714/1a,26a4/1a " ++
  "fdf5=26d1/1a,270c/1a,26db/1a,2714/1a fdf6=26b3/1a,26c6/1a,2728/1a,270c/1a " ++
  "fdf7=26db/1a,270c/1a,2737/1a,2722/1a fdf8=2728/1a,26c6/1a,270c/1a,2714/1a " ++
  "fdf9=26d1/1a,270c/1a,2736/1a fdfa=26d1/1a,270c/1a,2736/1a,209/1a,2672/1a,270c/1a,270c/1a,2722/ " ++
  "1a,209/1a,26db/1a,270c/1a,2737/1a,2722/1a,209/1a,2728/1a,26c6/1a,270c/1a,2714/1a " ++
  "fdfb=268f/1a,270c/1a,209/1a,268f/1a,270c/1a,2672/1a,270c/1a,2722/1a " ++
  "fdfc=26b3/1a,2738/1a,2672/1a,270c/1a fdfd=535 fe00*10=0/0/0 fe10=223/16 fe11=236/16 " ++
  "fe12=292/16 fe13=240/16 fe14=23a/16 fe15=267/16 fe16=26d/16 fe17+2=38c/16 " ++
  "fe19=27e/16,27e/16,27e/16 fe20=0/2/4f fe21=0/0/0 fe22=0/2/4e fe23*4=0/0/0 fe27=0/2/34 " ++
  "fe28=0/0/0 fe29=0/2/4e fe2a*4=0/0/0 fe2e=0/2/50 fe2f=0/0/0 fe30=27e/16,27e/16 fe31=216/16 " ++
  "fe32=215/16 fe33*2=20b/16 fe35+2=328/16 fe37+2=32c/16 fe39+2=38a/16 fe3b+2=388/16 " ++
  "fe3d+2=382/16 fe3f+2=380/16 fe41+4=384/16 fe45+2=237 fe47+2=32a/16 fe49*4=20a/4 fe4d*3=20b/4 " ++
  "fe50=223/f fe51=236/f fe52=27e/f fe54=23a/f fe55=240/f fe56=26d/f fe57=267/f fe58=216/f " ++
  "fe59+2=328/f fe5b+2=32c/f fe5d+2=38a/f fe5f=3ac/f fe60=3a9/f fe61=3a1/f fe62=666/f fe63=20d/f " ++
  "fe64=66a/f fe65=66c/f fe66=66b/f fe68=3a7/f fe69=1f64/f fe6a=3ad/f fe6b=3a0/f fe70=0/1a/6d " ++
  "fe71=0/18/6d fe72=0/1a/70 fe73=0/0/0 fe74=0/1a/73 fe76=0/1a/76 fe77=0/18/76 fe78=0/1a/7a " ++
  "fe79=0/18/7a fe7a=0/1a/7d fe7b=0/18/7d fe7c=0/1a/80 fe7d=0/18/80 fe7e=0/1a/81 fe7f=0/18/81 " ++
  "fe80+2=2664/1a fe82=2665/19 fe83=2666/1a fe84=2666/19 fe85=2669/1a fe86=2669/19 fe87=266a/1a " ++
  "fe88=266a/19 fe89=266e/1a fe8a=266e/19 fe8b=266e/17 fe8c=266e/18 fe8d=2672/1a fe8e=2672/19 " ++
  "fe8f=2674/1a fe90=2674/19 fe91=2674/17 fe92=2674/18 fe93=2684/1a fe94=2684/19 fe95=2685/1a " ++
  "fe96=2685/19 fe97=2685/17 fe98=2685/18 fe99=2686/1a fe9a=2686/19 fe9b=2686/17 fe9c=2686/18 " ++
  "fe9d=268f/1a fe9e=268f/19 fe9f=268f/17 fea0=268f/18 fea1=2699/1a fea2=2699/19 fea3=2699/17 " ++
  "fea4=2699/18 fea5=269a/1a fea6=269a/19 fea7=269a/17 fea8=269a/18 fea9=26a4/1a feaa=26a4/19 " ++
  "feab=26a5/1a feac=26a5/19 fead=26b3/1a feae=26b3/19 feaf=26b4/1a feb0=26b4/19 feb1=26c6/1a " ++
  "feb2=26c6/19 feb3=26c6/17 feb4=26c6/18 feb5=26c7/1a feb6=26c7/19 feb7=26c7/17 feb8=26c7/18 " ++
  "feb9=26d1/1a feba=26d1/19 febb=26d1/17 febc=26d1/18 febd=26d2/1a febe=26d2/19 febf=26d2/17 " ++
  "fec0=26d2/18 fec1=26d7/1a fec2=26d7/19 fec3=26d7/17 fec4=26d7/18 fec5=26d8/1a fec6=26d8/19 " ++
  "fec7=26d8/17 fec8=26d8/18 fec9=26db/1a feca=26db/19 fecb=26db/17 fecc=26db/18 fecd=26dc/1a " ++
  "fece=26dc/19 fecf=26dc/17 fed0=26dc/18 fed1=26e4/1a fed2=26e4/19 fed3=26e4/17 fed4=26e4/18 " ++
  "fed5=26f0/1a fed6=26f0/19 fed7=26f0/17 fed8=26f0/18 fed9=26f6/1a feda=26f6/19 fedb=26f6/17 " ++
  "fedc=26f6/18 fedd=270c/1a fede=270c/19 fedf=270c/17 fee0=270c/18 fee1=2714/1a fee2=2714/19 " ++
  "fee3=2714/17 fee4=2714/18 fee5=2718/1a fee6=2718/19 fee7=2718/17 fee8=2718/18 fee9=2722/1a " ++
  "feea=2722/19 feeb=2722/17 feec=2722/18 feed=2728/1a feee=2728/19 feef=2736/1a fef0=2736/19 " ++
  "fef1=2737/1a fef2=2737/19 fef3=2737/17 fef4=2737/18 fef5=270c/1a,2665/1a fef6=270c/19,2665/19 " ++
  "fef7=270c/1a,2666/1a fef8=270c/19,2666/19 fef9=270c/1a,266a/1a fefa=270c/19,266a/19 " ++
  "fefb=270c/1a,2672/1a fefc=270c/19,2672/19 feff=0/0/0 ff01=267/3 ff02=31d/3 ff03=3ac/3 " ++
  "ff04=1f64/3 ff05=3ad/3 ff06=3a9/3 ff07=316/3 ff08+2=328/3 ff0a=3a1/3 ff0b=666/3 ff0c=223/3 " ++
  "ff0d=20d/3 ff0e=27e/3 ff0f=3a6/3 ff10+a=1f98/3 ff1a=240/3 ff1b=23a/3 ff1c+3=66a/3 ff1f=26d/3 " ++
  "ff20=3a0/3 ff21=1fa2/9 ff22=1fbc/9 ff23=1fd6/9 ff24=1feb/9 ff25=2007/9 ff26=2042/9 ff27=2051/9 " ++
  "ff28=2075/9 ff29=2090/9 ff2a=20ab/9 ff2b=20c4/9 ff2c=20d6/9 ff2d=2109/9 ff2e=2118/9 " ++
  "ff2f=213c/9 ff30=216b/9 ff31=2180/9 ff32=2193/9 ff33=21d2/9 ff34=21f7/9 ff35=2217/9 " ++
  "ff36=2247/9 ff37=2259/9 ff38=2264/9 ff39=2270/9 ff3a=2286/9 ff3b=32a/3 ff3c=3a7/3 ff3d=32b/3 " ++
  "ff3e=4b7/3 ff3f=20b/3 ff40=4b4/3 ff41=1fa2/3 ff42=1fbc/3 ff43=1fd6/3 ff44=1feb/3 ff45=2007/3 " ++
  "ff46=2042/3 ff47=2051/3 ff48=2075/3 ff49=2090/3 ff4a=20ab/3 ff4b=20c4/3 ff4c=20d6/3 " ++
  "ff4d=2109/3 ff4e=2118/3 ff4f=213c/3 ff50=216b/3 ff51=2180/3 ff52=2193/3 ff53=21d2/3 " ++
  "ff54=21f7/3 ff55=2217/3 ff56=2247/3 ff57=2259/3 ff58=2264/3 ff59=2270/3 ff5a=2286/3 ff5b=32c/3 " ++
  "ff5c=66e/3 ff5d=32d/3 ff5e=670/3 ff5f+2=33e/3 ff61=292/12 ff62+2=384/12 ff64=236/12 " ++
  "ff65=221/12 ff66=4309/12 ff67+3=42da/10 ff6a+2=42de/10 ff6c+3=42fe/10 ff6f=42ec/10 " ++
  "ff70=1f60/12 ff71+3=42da/12 ff74+29=42de/12 ff9d=430a/12 ff9e=0/12/37 ff9f=0/12/38 " ++
  "ffa0=41f2/12 ffa1+2=4175/12 ffa3=4253/12 ffa4=4177/12 ffa5+2=4255/12 ffa7+3=4178/12 " ++
  "ffaa+6=4259/12 ffb0=418f/12 ffb1+3=417b/12 ffb4=4196/12 ffb5+a=417e/12 ffc2+6=41f3/12 " ++
  "ffca+6=41f9/12 ffd2+6=41ff/12 ffda+3=4205/12 ffe0=1f63/3 ffe1=1f65/3 ffe2=66d/3 ffe3=4b8/3 " ++
  "ffe4=66f/3 ffe5=1f66/3 ffe6=1f80/3 ffe8=86b/12 ffe9=5ec/12 ffea=5ee/12 ffeb=5ed/12 ffec=5ef/12 " ++
  "ffed=909/12 ffee=934/12 fff9*3=0/0/0 fffc=1d55 fffd=fffd"

/-- Elements: scripts beyond the first plane. -/
def ancientScripts : String :=
  "10000+c=4cfc 1000d+1a=4d08 10028+13=4d22 1003c+2=4d35 1003f+f=4d37 10050+e=4d46 10080+7b=4d54 " ++
  "10100+3=30b 10107+9=1f99 10110+24=1dbe 10137+9=10c4 10140+2=1de2 10142=1f99 10143=1f9d " ++
  "10144+4=1de4 10148=1f9d 10149+6=1de8 1014f=1f9d 10150+8=1dee 10158*3=1f99 1015b*4=1f9a " ++
  "1015f=1f9d 10160+13=1df6 10173=1f9d 10174+5=1e09 10179+11=10cd 1018a=1f98 1018b=1e0e " ++
  "1018c+3=10de 10190+c=10e1 101a0=10ee 101d0+2d=10ef 101fd=0/2/117 10280+1d=4ac1 102a0+31=4ade " ++
  "102e0=0/0/0 102e1+9=1f99 102ea+12=1e0f 10300+f=4b29 1030f+10=4b39 1031f=4b38 10320=1f99 " ++
  "10321=1f9d 10322+2=1db8 10330+1b=4b4c 10350+26=2579 10376=2579/4 10377=257c/4 10378=2580/4 " ++
  "10379=2586/4 1037a=258a/4 10380+1e=50ff 1039f=30e 103a0+24=511d 103c8+8=5141 103d0=30f " ++
  "103d1+2=1f99 103d3+3=1e21 10400+28=4b67/8 10428+58=4b67 10480+1e=4c4a 104a0+a=1f98 " ++
  "104b0+24=3934/8 104d8+24=3934 10500+28=4c68 10530+34=4c90 1056f=45e 10600+137=4dcf " ++
  "10740+16=4f06 10760+8=4f1c 10800+6=4f24 10808=4f2a 1080a+2c=4f2b 10837+2=4f57 1083c=4f59 " ++
  "1083f=4f5a 10840+16=500b 10857=2e2 10858+3=1f99 1085b+5=1e33 10860+d=4fca 1086d=4fd7/19 " ++
  "1086e+9=4fd7 10877+2=111c 10879+5=1f99 1087e+2=1e24 10880=4fe0/19 10881=4fe0 10882=4fe1/19 " ++
  "10883+3=4fe1 10886=4fe4/19 10887+5=4fe4 1088c=4fe9/19 1088d=4fe9 1088e=4fea/19 1088f=4fea " ++
  "10890=4feb/19 10891=4feb 10892=4fec/19 10893=4fec 10894=4fed/19 10895+7=4fed 1089c=4ff4/19 " ++
  "1089d+2=4ff4 108a7+4=1f99 108ab+2=1f9c 108ad+3=1e26 108e0+13=4ff6 108f4+2=5009 108fb=1f99 " ++
  "108fc=1f9d 108fd+3=1e29 10900+16=2634 10916=1f99 10917+3=1e30 1091a+2=1f9a 1091f=310 " ++
  "10920+1a=4b0f 1093f=30a 10980=59d6/4,0/4/118 10981=59d7/4,0/4/118 10982=59d8/4,0/4/118 " ++
  "10983=59d9/4,0/4/118 10984=59da/4,0/4/118 10985=59db/4,0/4/118 10986=59dc/4,0/4/118 " ++
  "10987=59dc/4,0/4/119 10988=59dd/4,0/4/118 10989=59de/4,0/4/118 1098a=59df/4,0/4/118 " ++
  "1098b=59df/4,0/4/119 1098c=59e0/4,0/4/118 1098d=59e0/4,0/4/119 1098e=59e1/4,0/4/118 " ++
  "1098f=59e1/4,0/4/119 10990=59e2/4,0/4/118 10991=59e3/4,0/4/118 10992=59e4/4,0/4/118 " ++
  "10993=59e5/4,0/4/119 10994=59e5/4,0/4/11a 10995=59e6/4,0/4/118 10996=59e7/4,0/4/118 " ++
  "10997=59e8/4,0/4/118 10998=59e9/4,0/4/118 10999=59e9/4,0/4/119 1099a=59ea/4,0/4/118 " ++
  "1099b=59ea/4,0/4/119 1099c=59eb/4,0/4/118 1099d=59ec/4,0/4/118 1099e+2=59ef 109a0+10=59d6 " ++
  "109b0=59e5/4,0/4/118 109b1+7=59e6 109bc=1f2b 109bd=1f20 109be+2=59ed 109c0+9=1f99 109c9+7=1ef5 " ++
  "109d2+24=1efc 109f6+a=1f21 10a00+4=31af 10a05+2=31b3 10a0c=31b5 10a0d=0/2/34 10a0e=0/2/c4 " ++
  "10a0f=0/2/c5 10a10=31b6 10a11+3=31b8 10a15+3=31bb 10a19+2=31be 10a1b=31c1 10a1c+11=31c3 " ++
  "10a2d+5=31d5 10a32=31b7 10a33=31c2 10a38=0/2/cd 10a39=0/2/ce 10a3a=0/2/cf 10a3f=31da " ++
  "10a40+4=1f99 10a44+4=1e5e 10a50+6=464 10a56+2=2b2 10a58=46a 10a60+1d=4f5b 10a7d=1f99 " ++
  "10a7e+2=1e2c 10a80+1d=4f78 10a9d=1f99 10a9e+2=1e2e 10ac0+8=5072 10ac8=5079/4,0/4/119 " ++
  "10ac9+1c=507a 10ae5=0/2/33 10ae6=0/2/34 10aeb=1f99 10aec=1f9d 10aed+3=1e38 10af0+7=46f " ++
  "10b00+2e=4f95 10b2e=4fc2/4,0/4/118 10b2f+7=4fc3 10b39=46e 10b3a+6=2e3 10b40+16=5021 " ++
  "10b58+4=1f99 10b5c+4=1e3b 10b60+13=5037 10b78+4=1f99 10b7c+4=1e3f 10b80+12=504a 10b99+4=476 " ++
  "10ba9+4=1f99 10bad+3=1e43 10c00=3c8c 10c01=3c8c/4,0/4/118 10c02+2=3c8d 10c04=3c8e/4,0/4/118 " ++
  "10c05+3=3c8f 10c08=3c91/4,0/4/118 10c09=3c92 10c0a=3c92/4,0/4/118 10c0b=3c93 " ++
  "10c0c=3c93/4,0/4/118 10c0d=3c94 10c0e=3c94/4,0/4/118 10c0f=3c95 10c10=3c95/4,0/4/118 " ++
  "10c11=3c96 10c12=3c96/4,0/4/118 10c13+2=3c97 10c15=3c98/4,0/4/118 10c16=3c99 " ++
  "10c17=3c99/4,0/4/118 10c18=3c9a 10c19=3c9a/4,0/4/118 10c1a=3c9b 10c1b=3c9b/4,0/4/118 " ++
  "10c1c=3c9c 10c1d=3c9c/4,0/4/118 10c1e=3c9d 10c1f=3c9d/4,0/4/118 10c20+5=3c9e " ++
  "10c25=3ca2/4,0/4/118 10c26=3ca3 10c27=3ca3/4,0/4/118 10c28=3ca4 10c29=3ca4/4,0/4/118 " ++
  "10c2a=3ca5 10c2b=3ca5/4,0/4/118 10c2c+2=3ca6 10c2e=3ca7/4,0/4/118 10c2f+4=3ca8 " ++
  "10c33=3cab/4,0/4/118 10c34=3cac 10c35=3cac/4,0/4/118 10c36=3cad 10c37=3cad/4,0/4/118 " ++
  "10c38=3cae 10c39=3cae/4,0/4/118 10c3a=3caf 10c3b=3caf/4,0/4/118 10c3c+4=3cb0 " ++
  "10c40=3cb3/4,0/4/118 10c41=3cb4 10c42=3cb4/4,0/4/118 10c43=3cb5 10c44=3cb5/4,0/4/118 " ++
  "10c45=3cb6 10c46=3cb6/4,0/4/118 10c47+2=3cb7 10c80=3c63/8 10c81=3c63/a,0/4/118 10c82+8=3c64/8 " ++
  "10c8a=3c6b/a,0/4/118 10c8b=3c6b/a,0/4/119 10c8c+5=3c6c/8 10c91=3c70/a,0/4/118 10c92+a=3c71/8 " ++
  "10c9c=3c7a/a,0/4/118 10c9d=3c7b/8 10c9e=3c7b/a,0/4/118 10c9f=3c7b/a,0/4/119 10ca0+3=3c7c/8 " ++
  "10ca3=3c7e/a,0/4/118 10ca4+7=3c7f/8 10cab=3c85/a,0/4/118 10cac=3c86/8 10cad=3c86/a,0/4/118 " ++
  "10cae+5=3c87/8 10cc0=3c63 10cc1=3c63/4,0/4/118 10cc2+8=3c64 10cca=3c6b/4,0/4/118 " ++
  "10ccb=3c6b/4,0/4/119 10ccc+5=3c6c 10cd1=3c70/4,0/4/118 10cd2+a=3c71 10cdc=3c7a/4,0/4/118 " ++
  "10cdd=3c7b 10cde=3c7b/4,0/4/118 10cdf=3c7b/4,0/4/119 10ce0+3=3c7c 10ce3=3c7e/4,0/4/118 " ++
  "10ce4+7=3c7f 10ceb=3c85/4,0/4/118 10cec=3c86 10ced=3c86/4,0/4/118 10cee+5=3c87 10cfa=1f99 " ++
  "10cfb=1f9d 10cfc+4=1dba 10e60+9=1f99 10e69+16=1da1 11000=0/2/c3 11001=0/2/c4 11002=0/2/c5 " ++
  "11003+2=3199 11005+2f=316a 11034+13=319b 11047+2=2b4 11049+5=45f 11052+9=1f99 1105b+b=1e53 " ++
  "11066+a=1f98 1107f=31ae 11080=0/2/c3 11081=0/2/c4 11082=0/2/c5 11083+17=2d47 1109b=2d5e " ++
  "1109d+e=2d5f 110ac+e=2d6d 110ba=0/2/c2 110bb+2=47a 110bd=0/0/0 110be+2=2ee 110c0+2=2b6 " ++
  "110d0+19=4cc4 110f0+a=1f98 11100=0/2/c3 11101=0/2/c4 11102=0/2/c5 11103+21=363f 11124+3=3661 " ++
  "11127+7=3665 11130+2=366e 11131,11127=366c 11132=3670 11132,11127=366d 11133+2=3673 " ++
  "11136+a=1f98 11140=2f0 11141+2=2b8 11143=27a 11150+20=2d7b 11170+3=2d9c 11173=0/2/c2 " ++
  "11174+2=47c 11176=2d9b 11180=0/2/c3 11181=0/2/c4 11182=0/2/c5 11183+30=2da1 111b3+a=2dd5 " ++
  "111bd+4=2de0 111c1+3=2dd1 111c4=2d9f 111c5+2=2ba 111c7=47f 111c8=2f1 111c9=0/2/c6 111ca=0/2/c2 " ++
  "111cb=0/2/d0 111cc=0/2/d1 111cd=47e 111d0+a=1f98 111da=2da0 111db=480 111dc=2dd4 111dd=481 " ++
  "111de+2=2f2 111e1+9=1f99 111ea+b=1e6d 11200+12=2de4 11213+21=2df6 11234=0/2/c4 11235=2e17 " ++
  "11236=0/2/c2 11237=0/2/80 11238+2=2bc 1123a+4=482 1123e=0/2/81 11280+4=2e51 11284+3=2e57 " ++
  "11288=2e5a 1128a+4=2e5b 1128f+f=2e5f 1129f+6=2e6e 112a5+2=2e55 112a7+2=2e74 112a9=2f4 " ++
  "112b0+2f=2e18 112df=0/2/c4 112e0+9=2e47 112e9=0/2/c2 112ea=2e50 112f0+a=1f98 11300=0/2/c4 " ++
  "11301=0/2/c3 11302=0/2/c4 11303=0/2/c5 11305+7=2e77 1130c=2e7f 1130f+2=2e81 11313+16=2e83 " ++
  "1132a+7=2e99 11332+2=2ea0 11335+5=2ea2 1133c=0/2/c2 1133d=2ea7 1133e+7=2eaa 11347=2eb3 " ++
  "11347,1133e=2eb5 11347,11357=2eb6 11348=2eb4 1134d=2eb7 11350=2e76 11357=2eb8 1135d=2eb9 " ++
  "1135e+2=2ea8 11360=2e7e 11361=2e80 11362+2=2eb1 11366*7=0/0/0 11370*5=0/0/0 11400+35=2ebc " ++
  "11435+e=2ef6 11443=0/2/c3 11444=0/2/c4 11445=0/2/c5 11446=0/2/c2 11447=2ef1 11448=2ef4 " ++
  "11449+2=2eba 1144b+2=2be 1144d=486 1144e+2=488 11450+a=1f98 1145b=48a 1145d=48b 11480+30=2f05 " ++
  "114b0+a=2f37 114b9,114b0=2f43 114b9,114ba=2f42 114b9,114bd=2f45 114ba=2f41 114bd=2f44 " ++
  "114bf=0/2/c3 114c0=0/2/c4 114c1=0/2/c5 114c2=2f46 114c3=0/2/c2 114c4+2=2f35 114c6=48c " ++
  "114c7=2f04 114d0+a=1f98 11580+36=2f47 115b8=2f7d 115b8,115af=2f7f 115b9=2f7e 115b9,115af=2f80 " ++
  "115bc=0/2/c3 115bd=0/2/c4 115be=0/2/c5 115bf=2f81 115c0=0/2/c2 115c1=48d 115c2+2=2c0 " ++
  "115c4+14=48e 115d8=2f49/4,0/4/118 115d9=2f49/4,0/4/119 115da=2f4a/4,0/4/118 " ++
  "115db=2f4b/4,0/4/118 115dc=2f79/4,0/4/118 115dd=2f7a/4,0/4/118 11600+3d=2f82 1163d=0/2/c4 " ++
  "1163e=0/2/c5 1163f=2fbf 11640=0/2/c3 11641+2=2c2 11643=4a2 11644=2fc0 11650+a=1f98 11660+d=3f3 " ++
  "11680+a=2fc1 1168a+2=2fce 1168c+1b=2fd1 116a7=2fcc 116a8=2fcb 116a9=2fcd 116aa=2fec " ++
  "116ab=0/2/c4 116ac=0/2/c5 116ad+a=2fed 116b7=0/2/c2 116c0+a=1f98 11700+5=30a5 " ++
  "11705=30a9/4,0/4/118 11706+10=30aa 11716=30b9/4,0/4/118 11717+3=30ba 1171d+3=30c9 11720+c=30bd " ++
  "11730+a=1f98 1173a+2=1e51 1173c+2=2c4 1173e=2f5 1173f=59e 118a0+20=49af/8 118c0+20=49af " ++
  "118e0+a=1f98 118ea+9=1e78 118ff=49ae 11ac0+15=49d6 11ad5+7=49cf 11adc+2=49eb 11ade=49f2 " ++
  "11adf+5=49ed 11ae4=49f3 11ae5=49f9 11ae6=49f7 11ae7=4a05 11ae8=49fa 11ae9=49f8 11aea=4a06 " ++
  "11aeb=4a01 11aec=49ff 11aed=4a02 11aee=4a00 11aef=49f4 11af0=4a07 11af1=49f6 11af2=49f5 " ++
  "11af3=49fd 11af4=49fb 11af5=4a03 11af6=49fe 11af7=49fc 11af8=4a04 11c00+9=31db 11c0a+25=31e4 " ++
  "11c2f+8=320a 11c38+4=3212 11c3c=0/2/c3 11c3d=0/2/c4 11c3e=0/2/c5 11c3f=3216 11c40=3209 " ++
  "11c41+2=2c7 11c43+3=46b 11c50+a=1f98 11c5a+9=1f99 11c63+a=1e63 11c70+2=436 11c72=33a6 " ++
  "11c73=33a8 11c74=33aa 11c75=33ac 11c76=33ae 11c77=33b0 11c78=33b2 11c79=33b4 11c7a=33b6 " ++
  "11c7b=33b8 11c7c=33ba 11c7d=33bc 11c7e=33be 11c7f=33c0 11c80=33c2 11c81=33c4 11c82=33c6 " ++
  "11c83=33c8 11c84=33ca 11c85=33cc 11c86=33ce 11c87=33d0 11c88+2=33d2 11c8a=33d5 11c8b=33d7 " ++
  "11c8c=33d9 11c8d=33db 11c8e=33dd 11c8f=33df 11c92=33a7 11c93=33a9 11c94=33ab 11c95=33ad " ++
  "11c96=33af 11c97=33b1 11c98=33b3 11c99=33b5 11c9a=33b7 11c9b=33b9 11c9c=33bb 11c9d=33bd " ++
  "11c9e=33bf 11c9f=33c1 11ca0=33c3 11ca1=33c5 11ca2=33c7 11ca3=33c9 11ca4=33cb 11ca5=33cd " ++
  "11ca6=33cf 11ca7=33d1 11ca9=33d4 11caa=33d6 11cab=33d8 11cac=33da 11cad=33dc 11cae=33de " ++
  "11caf+6=33e0 11cb5=0/2/c4 11cb6=0/2/c3 12000+263=5149 12263+71=53ae 122d4+2=53ac 122d6+c4=541f " ++
  "12400+8=1f9a 12408+7=1f9b 1240f+6=1f9c 12415+9=1f99 1241e+5=1f99 12423+2=1f9a 12425+7=1f9b " ++
  "1242c+3=1f99 1242f+3=1f9b 12432+2=1f2c 12434+3=1f99 12437+3=1f9b 1243a*2=1f9b 1243c*4=1f9c " ++
  "12440+2=1f9e 12442*2=1f9f 12444*2=1fa0 12446*4=1fa1 1244a+5=1f9a 1244f+4=1f99 12453+2=1f9c " ++
  "12455=1f9d 12456+2=1f9a 12458+2=1f99 1245a+f=1f2e 12469+6=1f9c 12470+5=311 12480+c4=54e3 " ++
  "13000+42f=55a7 14400+247=59f1 16800+239=3e16 16a40+1f=4cdd 16a60+a=1f98 16a6e+2=2c9 " ++
  "16ad0+1e=404f 16af0=0/2/b8 16af1=0/2/b9 16af2=0/2/ba 16af3=0/2/bb 16af4=0/2/bc 16af5=28f " ++
  "16b00+30=4a08 16b30=0/2/f6 16b31=0/2/f7 16b32=0/2/f8 16b33=0/2/f9 16b34=0/2/fa 16b35=0/2/fb " ++
  "16b36=0/2/fc 16b37+5=4a7 16b3c+4=111e 16b40+2=4a38 16b42+2=1f53 16b44=4ac 16b45=1122 " ++
  "16b50+a=1f98 16b5b+7=1e81 16b63+15=4a3a 16b7d+13=4a4f 16f00+4=491d 16f04+2=4922 16f06=4922/4 " ++
  "16f07+7=4924 16f0e+2=492c 16f10+3=492f 16f13=492f/4 16f14+11=4932 16f25=4941/4 16f26+d=4943 " ++
  "16f33=4951 16f34+6=4953 16f3a+5=495a 16f3f=495d/4 16f40+5=495f 16f50+4=4964 16f54+5=4969 " ++
  "16f59+4=496f 16f5d+4=4974 16f61+5=4979 16f66+8=497f 16f6e+5=4989 16f73+2=498f 16f75+a=4993 " ++
  "16f8f+11=499d 16fe0=1f59 1b000=42dd/11 1b001=4318 1bc00+6b=4bbf 1bc70+d=4c2a 1bc80+9=4c37 " ++
  "1bc90+a=4c40 1bc9c=1314 1bc9d=0/2/33 1bc9e=0/2/35 1bc9f=291 1bca0*4=0/0/0"

/-- Elements: mathematical letters, pictographs and what follows. -/
def planeSymbols : String :=
  "1d000+f6=1124 1d100+27=121a 1d129=1254 1d12a+10=1244 1d13a+24=1255 1d165*5=0/0/0 1d16a+3=1279 " ++
  "1d16d*16=0/0/0 1d183+2=127c 1d185*7=0/0/0 1d18c+1e=127e 1d1aa*4=0/0/0 1d1ae+d=129c " ++
  "1d1c1+28=12a9 1d200+42=12d1 1d242*3=0/0/0 1d245=1313 1d300+57=1036 1d360+9=1f99 1d369+9=1f3d " ++
  "1d400=1fa2/b 1d401=1fbc/b 1d402=1fd6/b 1d403=1feb/b 1d404=2007/b 1d405=2042/b 1d406=2051/b " ++
  "1d407=2075/b 1d408=2090/b 1d409=20ab/b 1d40a=20c4/b 1d40b=20d6/b 1d40c=2109/b 1d40d=2118/b " ++
  "1d40e=213c/b 1d40f=216b/b 1d410=2180/b 1d411=2193/b 1d412=21d2/b 1d413=21f7/b 1d414=2217/b " ++
  "1d415=2247/b 1d416=2259/b 1d417=2264/b 1d418=2270/b 1d419=2286/b 1d41a=1fa2/5 1d41b=1fbc/5 " ++
  "1d41c=1fd6/5 1d41d=1feb/5 1d41e=2007/5 1d41f=2042/5 1d420=2051/5 1d421=2075/5 1d422=2090/5 " ++
  "1d423=20ab/5 1d424=20c4/5 1d425=20d6/5 1d426=2109/5 1d427=2118/5 1d428=213c/5 1d429=216b/5 " ++
  "1d42a=2180/5 1d42b=2193/5 1d42c=21d2/5 1d42d=21f7/5 1d42e=2217/5 1d42f=2247/5 1d430=2259/5 " ++
  "1d431=2264/5 1d432=2270/5 1d433=2286/5 1d434=1fa2/b 1d435=1fbc/b 1d436=1fd6/b 1d437=1feb/b " ++
  "1d438=2007/b 1d439=2042/b 1d43a=2051/b 1d43b=2075/b 1d43c=2090/b 1d43d=20ab/b 1d43e=20c4/b " ++
  "1d43f=20d6/b 1d440=2109/b 1d441=2118/b 1d442=213c/b 1d443=216b/b 1d444=2180/b 1d445=2193/b " ++
  "1d446=21d2/b 1d447=21f7/b 1d448=2217/b 1d449=2247/b 1d44a=2259/b 1d44b=2264/b 1d44c=2270/b " ++
  "1d44d=2286/b 1d44e=1fa2/5 1d44f=1fbc/5 1d450=1fd6/5 1d451=1feb/5 1d452=2007/5 1d453=2042/5 " ++
  "1d454=2051/5 1d456=2090/5 1d457=20ab/5 1d458=20c4/5 1d459=20d6/5 1d45a=2109/5 1d45b=2118/5 " ++
  "1d45c=213c/5 1d45d=216b/5 1d45e=2180/5 1d45f=2193/5 1d460=21d2/5 1d461=21f7/5 1d462=2217/5 " ++
  "1d463=2247/5 1d464=2259/5 1d465=2264/5 1d466=2270/5 1d467=2286/5 1d468=1fa2/b 1d469=1fbc/b " ++
  "1d46a=1fd6/b 1d46b=1feb/b 1d46c=2007/b 1d46d=2042/b 1d46e=2051/b 1d46f=2075/b 1d470=2090/b " ++
  "1d471=20ab/b 1d472=20c4/b 1d473=20d6/b 1d474=2109/b 1d475=2118/b 1d476=213c/b 1d477=216b/b " ++
  "1d478=2180/b 1d479=2193/b 1d47a=21d2/b 1d47b=21f7/b 1d47c=2217/b 1d47d=2247/b 1d47e=2259/b " ++
  "1d47f=2264/b 1d480=2270/b 1d481=2286/b 1d482=1fa2/5 1d483=1fbc/5 1d484=1fd6/5 1d485=1feb/5 " ++
  "1d486=2007/5 1d487=2042/5 1d488=2051/5 1d489=2075/5 1d48a=2090/5 1d48b=20ab/5 1d48c=20c4/5 " ++
  "1d48d=20d6/5 1d48e=2109/5 1d48f=2118/5 1d490=213c/5 1d491=216b/5 1d492=2180/5 1d493=2193/5 " ++
  "1d494=21d2/5 1d495=21f7/5 1d496=2217/5 1d497=2247/5 1d498=2259/5 1d499=2264/5 1d49a=2270/5 " ++
  "1d49b=2286/5 1d49c=1fa2/b 1d49e=1fd6/b 1d49f=1feb/b 1d4a2=2051/b 1d4a5=20ab/b 1d4a6=20c4/b " ++
  "1d4a9=2118/b 1d4aa=213c/b 1d4ab=216b/b 1d4ac=2180/b 1d4ae=21d2/b 1d4af=21f7/b 1d4b0=2217/b " ++
  "1d4b1=2247/b 1d4b2=2259/b 1d4b3=2264/b 1d4b4=2270/b 1d4b5=2286/b 1d4b6=1fa2/5 1d4b7=1fbc/5 " ++
  "1d4b8=1fd6/5 1d4b9=1feb/5 1d4bb=2042/5 1d4bd=2075/5 1d4be=2090/5 1d4bf=20ab/5 1d4c0=20c4/5 " ++
  "1d4c1=20d6/5 1d4c2=2109/5 1d4c3=2118/5 1d4c5=216b/5 1d4c6=2180/5 1d4c7=2193/5 1d4c8=21d2/5 " ++
  "1d4c9=21f7/5 1d4ca=2217/5 1d4cb=2247/5 1d4cc=2259/5 1d4cd=2264/5 1d4ce=2270/5 1d4cf=2286/5 " ++
  "1d4d0=1fa2/b 1d4d1=1fbc/b 1d4d2=1fd6/b 1d4d3=1feb/b 1d4d4=2007/b 1d4d5=2042/b 1d4d6=2051/b " ++
  "1d4d7=2075/b 1d4d8=2090/b 1d4d9=20ab/b 1d4da=20c4/b 1d4db=20d6/b 1d4dc=2109/b 1d4dd=2118/b " ++
  "1d4de=213c/b 1d4df=216b/b 1d4e0=2180/b 1d4e1=2193/b 1d4e2=21d2/b 1d4e3=21f7/b 1d4e4=2217/b " ++
  "1d4e5=2247/b 1d4e6=2259/b 1d4e7=2264/b 1d4e8=2270/b 1d4e9=2286/b 1d4ea=1fa2/5 1d4eb=1fbc/5 " ++
  "1d4ec=1fd6/5 1d4ed=1feb/5 1d4ee=2007/5 1d4ef=2042/5 1d4f0=2051/5 1d4f1=2075/5 1d4f2=2090/5 " ++
  "1d4f3=20ab/5 1d4f4=20c4/5 1d4f5=20d6/5 1d4f6=2109/5 1d4f7=2118/5 1d4f8=213c/5 1d4f9=216b/5 " ++
  "1d4fa=2180/5 1d4fb=2193/5 1d4fc=21d2/5 1d4fd=21f7/5 1d4fe=2217/5 1d4ff=2247/5 1d500=2259/5 " ++
  "1d501=2264/5 1d502=2270/5 1d503=2286/5 1d504=1fa2/b 1d505=1fbc/b 1d507=1feb/b 1d508=2007/b " ++
  "1d509=2042/b 1d50a=2051/b 1d50d=20ab/b 1d50e=20c4/b 1d50f=20d6/b 1d510=2109/b 1d511=2118/b " ++
  "1d512=213c/b 1d513=216b/b 1d514=2180/b 1d516=21d2/b 1d517=21f7/b 1d518=2217/b 1d519=2247/b " ++
  "1d51a=2259/b 1d51b=2264/b 1d51c=2270/b 1d51e=1fa2/5 1d51f=1fbc/5 1d520=1fd6/5 1d521=1feb/5 " ++
  "1d522=2007/5 1d523=2042/5 1d524=2051/5 1d525=2075/5 1d526=2090/5 1d527=20ab/5 1d528=20c4/5 " ++
  "1d529=20d6/5 1d52a=2109/5 1d52b=2118/5 1d52c=213c/5 1d52d=216b/5 1d52e=2180/5 1d52f=2193/5 " ++
  "1d530=21d2/5 1d531=21f7/5 1d532=2217/5 1d533=2247/5 1d534=2259/5 1d535=2264/5 1d536=2270/5 " ++
  "1d537=2286/5 1d538=1fa2/b 1d539=1fbc/b 1d53b=1feb/b 1d53c=2007/b 1d53d=2042/b 1d53e=2051/b " ++
  "1d540=2090/b 1d541=20ab/b 1d542=20c4/b 1d543=20d6/b 1d544=2109/b 1d546=213c/b 1d54a=21d2/b " ++
  "1d54b=21f7/b 1d54c=2217/b 1d54d=2247/b 1d54e=2259/b 1d54f=2264/b 1d550=2270/b 1d552=1fa2/5 " ++
  "1d553=1fbc/5 1d554=1fd6/5 1d555=1feb/5 1d556=2007/5 1d557=2042/5 1d558=2051/5 1d559=2075/5 " ++
  "1d55a=2090/5 1d55b=20ab/5 1d55c=20c4/5 1d55d=20d6/5 1d55e=2109/5 1d55f=2118/5 1d560=213c/5 " ++
  "1d561=216b/5 1d562=2180/5 1d563=2193/5 1d564=21d2/5 1d565=21f7/5 1d566=2217/5 1d567=2247/5 " ++
  "1d568=2259/5 1d569=2264/5 1d56a=2270/5 1d56b=2286/5 1d56c=1fa2/b 1d56d=1fbc/b 1d56e=1fd6/b " ++
  "1d56f=1feb/b 1d570=2007/b 1d571=2042/b 1d572=2051/b 1d573=2075/b 1d574=2090/b 1d575=20ab/b " ++
  "1d576=20c4/b 1d577=20d6/b 1d578=2109/b 1d579=2118/b 1d57a=213c/b 1d57b=216b/b 1d57c=2180/b " ++
  "1d57d=2193/b 1d57e=21d2/b 1d57f=21f7/b 1d580=2217/b 1d581=2247/b 1d582=2259/b 1d583=2264/b " ++
  "1d584=2270/b 1d585=2286/b 1d586=1fa2/5 1d587=1fbc/5 1d588=1fd6/5 1d589=1feb/5 1d58a=2007/5 " ++
  "1d58b=2042/5 1d58c=2051/5 1d58d=2075/5 1d58e=2090/5 1d58f=20ab/5 1d590=20c4/5 1d591=20d6/5 " ++
  "1d592=2109/5 1d593=2118/5 1d594=213c/5 1d595=216b/5 1d596=2180/5 1d597=2193/5 1d598=21d2/5 " ++
  "1d599=21f7/5 1d59a=2217/5 1d59b=2247/5 1d59c=2259/5 1d59d=2264/5 1d59e=2270/5 1d59f=2286/5 " ++
  "1d5a0=1fa2/b 1d5a1=1fbc/b 1d5a2=1fd6/b 1d5a3=1feb/b 1d5a4=2007/b 1d5a5=2042/b 1d5a6=2051/b " ++
  "1d5a7=2075/b 1d5a8=2090/b 1d5a9=20ab/b 1d5aa=20c4/b 1d5ab=20d6/b 1d5ac=2109/b 1d5ad=2118/b " ++
  "1d5ae=213c/b 1d5af=216b/b 1d5b0=2180/b 1d5b1=2193/b 1d5b2=21d2/b 1d5b3=21f7/b 1d5b4=2217/b " ++
  "1d5b5=2247/b 1d5b6=2259/b 1d5b7=2264/b 1d5b8=2270/b 1d5b9=2286/b 1d5ba=1fa2/5 1d5bb=1fbc/5 " ++
  "1d5bc=1fd6/5 1d5bd=1feb/5 1d5be=2007/5 1d5bf=2042/5 1d5c0=2051/5 1d5c1=2075/5 1d5c2=2090/5 " ++
  "1d5c3=20ab/5 1d5c4=20c4/5 1d5c5=20d6/5 1d5c6=2109/5 1d5c7=2118/5 1d5c8=213c/5 1d5c9=216b/5 " ++
  "1d5ca=2180/5 1d5cb=2193/5 1d5cc=21d2/5 1d5cd=21f7/5 1d5ce=2217/5 1d5cf=2247/5 1d5d0=2259/5 " ++
  "1d5d1=2264/5 1d5d2=2270/5 1d5d3=2286/5 1d5d4=1fa2/b 1d5d5=1fbc/b 1d5d6=1fd6/b 1d5d7=1feb/b " ++
  "1d5d8=2007/b 1d5d9=2042/b 1d5da=2051/b 1d5db=2075/b 1d5dc=2090/b 1d5dd=20ab/b 1d5de=20c4/b " ++
  "1d5df=20d6/b 1d5e0=2109/b 1d5e1=2118/b 1d5e2=213c/b 1d5e3=216b/b 1d5e4=2180/b 1d5e5=2193/b " ++
  "1d5e6=21d2/b 1d5e7=21f7/b 1d5e8=2217/b 1d5e9=2247/b 1d5ea=2259/b 1d5eb=2264/b 1d5ec=2270/b " ++
  "1d5ed=2286/b 1d5ee=1fa2/5 1d5ef=1fbc/5 1d5f0=1fd6/5 1d5f1=1feb/5 1d5f2=2007/5 1d5f3=2042/5 " ++
  "1d5f4=2051/5 1d5f5=2075/5 1d5f6=2090/5 1d5f7=20ab/5 1d5f8=20c4/5 1d5f9=20d6/5 1d5fa=2109/5 " ++
  "1d5fb=2118/5 1d5fc=213c/5 1d5fd=216b/5 1d5fe=2180/5 1d5ff=2193/5 1d600=21d2/5 1d601=21f7/5 " ++
  "1d602=2217/5 1d603=2247/5 1d604=2259/5 1d605=2264/5 1d606=2270/5 1d607=2286/5 1d608=1fa2/b " ++
  "1d609=1fbc/b 1d60a=1fd6/b 1d60b=1feb/b 1d60c=2007/b 1d60d=2042/b 1d60e=2051/b 1d60f=2075/b " ++
  "1d610=2090/b 1d611=20ab/b 1d612=20c4/b 1d613=20d6/b 1d614=2109/b 1d615=2118/b 1d616=213c/b " ++
  "1d617=216b/b 1d618=2180/b 1d619=2193/b 1d61a=21d2/b 1d61b=21f7/b 1d61c=2217/b 1d61d=2247/b " ++
  "1d61e=2259/b 1d61f=2264/b 1d620=2270/b 1d621=2286/b 1d622=1fa2/5 1d623=1fbc/5 1d624=1fd6/5 " ++
  "1d625=1feb/5 1d626=2007/5 1d627=2042/5 1d628=2051/5 1d629=2075/5 1d62a=2090/5 1d62b=20ab/5 " ++
  "1d62c=20c4/5 1d62d=20d6/5 1d62e=2109/5 1d62f=2118/5 1d630=213c/5 1d631=216b/5 1d632=2180/5 " ++
  "1d633=2193/5 1d634=21d2/5 1d635=21f7/5 1d636=2217/5 1d637=2247/5 1d638=2259/5 1d639=2264/5 " ++
  "1d63a=2270/5 1d63b=2286/5 1d63c=1fa2/b 1d63d=1fbc/b 1d63e=1fd6/b 1d63f=1feb/b 1d640=2007/b " ++
  "1d641=2042/b 1d642=2051/b 1d643=2075/b 1d644=2090/b 1d645=20ab/b 1d646=20c4/b 1d647=20d6/b " ++
  "1d648=2109/b 1d649=2118/b 1d64a=213c/b 1d64b=216b/b 1d64c=2180/b 1d64d=2193/b 1d64e=21d2/b " ++
  "1d64f=21f7/b 1d650=2217/b 1d651=2247/b 1d652=2259/b 1d653=2264/b 1d654=2270/b 1d655=2286/b " ++
  "1d656=1fa2/5 1d657=1fbc/5 1d658=1fd6/5 1d659=1feb/5 1d65a=2007/5 1d65b=2042/5 1d65c=2051/5 " ++
  "1d65d=2075/5 1d65e=2090/5 1d65f=20ab/5 1d660=20c4/5 1d661=20d6/5 1d662=2109/5 1d663=2118/5 " ++
  "1d664=213c/5 1d665=216b/5 1d666=2180/5 1d667=2193/5 1d668=21d2/5 1d669=21f7/5 1d66a=2217/5 " ++
  "1d66b=2247/5 1d66c=2259/5 1d66d=2264/5 1d66e=2270/5 1d66f=2286/5 1d670=1fa2/b 1d671=1fbc/b " ++
  "1d672=1fd6/b 1d673=1feb/b 1d674=2007/b 1d675=2042/b 1d676=2051/b 1d677=2075/b 1d678=2090/b " ++
  "1d679=20ab/b 1d67a=20c4/b 1d67b=20d6/b 1d67c=2109/b 1d67d=2118/b 1d67e=213c/b 1d67f=216b/b " ++
  "1d680=2180/b 1d681=2193/b 1d682=21d2/b 1d683=21f7/b 1d684=2217/b 1d685=2247/b 1d686=2259/b " ++
  "1d687=2264/b 1d688=2270/b 1d689=2286/b 1d68a=1fa2/5 1d68b=1fbc/5 1d68c=1fd6/5 1d68d=1feb/5 " ++
  "1d68e=2007/5 1d68f=2042/5 1d690=2051/5 1d691=2075/5 1d692=2090/5 1d693=20ab/5 1d694=20c4/5 " ++
  "1d695=20d6/5 1d696=2109/5 1d697=2118/5 1d698=213c/5 1d699=216b/5 1d69a=2180/5 1d69b=2193/5 " ++
  "1d69c=21d2/5 1d69d=21f7/5 1d69e=2217/5 1d69f=2247/5 1d6a0=2259/5 1d6a1=2264/5 1d6a2=2270/5 " ++
  "1d6a3=2286/5 1d6a4=2094/5 1d6a5=20af/5 1d6a8+3=231e/b 1d6ab+2=2322/b 1d6ad=2327/b " ++
  "1d6ae+3=2329/b 1d6b1+2=232d/b 1d6b3+5=2330/b 1d6b8=2339/b 1d6b9=232a/b 1d6ba=233c/b " ++
  "1d6bb+5=2340/b 1d6c0=2346/b 1d6c1=65c/5 1d6c2+3=231e/5 1d6c5+2=2322/5 1d6c7=2327/5 " ++
  "1d6c8+3=2329/5 1d6cb+2=232d/5 1d6cd+5=2330/5 1d6d2=2339/5 1d6d3*2=233c/5 1d6d5+5=2340/5 " ++
  "1d6da=2346/5 1d6db=658/5 1d6dc=2323/5 1d6dd=232a/5 1d6de=232d/5 1d6df=2342/5 1d6e0=2339/5 " ++
  "1d6e1=2334/5 1d6e2+3=231e/b 1d6e5+2=2322/b 1d6e7=2327/b 1d6e8+3=2329/b 1d6eb+2=232d/b " ++
  "1d6ed+5=2330/b 1d6f2=2339/b 1d6f3=232a/b 1d6f4=233c/b 1d6f5+5=2340/b 1d6fa=2346/b 1d6fb=65c/5 " ++
  "1d6fc+3=231e/5 1d6ff+2=2322/5 1d701=2327/5 1d702+3=2329/5 1d705+2=232d/5 1d707+5=2330/5 " ++
  "1d70c=2339/5 1d70d*2=233c/5 1d70f+5=2340/5 1d714=2346/5 1d715=658/5 1d716=2323/5 1d717=232a/5 " ++
  "1d718=232d/5 1d719=2342/5 1d71a=2339/5 1d71b=2334/5 1d71c+3=231e/b 1d71f+2=2322/b 1d721=2327/b " ++
  "1d722+3=2329/b 1d725+2=232d/b 1d727+5=2330/b 1d72c=2339/b 1d72d=232a/b 1d72e=233c/b " ++
  "1d72f+5=2340/b 1d734=2346/b 1d735=65c/5 1d736+3=231e/5 1d739+2=2322/5 1d73b=2327/5 " ++
  "1d73c+3=2329/5 1d73f+2=232d/5 1d741+5=2330/5 1d746=2339/5 1d747*2=233c/5 1d749+5=2340/5 " ++
  "1d74e=2346/5 1d74f=658/5 1d750=2323/5 1d751=232a/5 1d752=232d/5 1d753=2342/5 1d754=2339/5 " ++
  "1d755=2334/5 1d756+3=231e/b 1d759+2=2322/b 1d75b=2327/b 1d75c+3=2329/b 1d75f+2=232d/b " ++
  "1d761+5=2330/b 1d766=2339/b 1d767=232a/b 1d768=233c/b 1d769+5=2340/b 1d76e=2346/b 1d76f=65c/5 " ++
  "1d770+3=231e/5 1d773+2=2322/5 1d775=2327/5 1d776+3=2329/5 1d779+2=232d/5 1d77b+5=2330/5 " ++
  "1d780=2339/5 1d781*2=233c/5 1d783+5=2340/5 1d788=2346/5 1d789=658/5 1d78a=2323/5 1d78b=232a/5 " ++
  "1d78c=232d/5 1d78d=2342/5 1d78e=2339/5 1d78f=2334/5 1d790+3=231e/b 1d793+2=2322/b 1d795=2327/b " ++
  "1d796+3=2329/b 1d799+2=232d/b 1d79b+5=2330/b 1d7a0=2339/b 1d7a1=232a/b 1d7a2=233c/b " ++
  "1d7a3+5=2340/b 1d7a8=2346/b 1d7a9=65c/5 1d7aa+3=231e/5 1d7ad+2=2322/5 1d7af=2327/5 " ++
  "1d7b0+3=2329/5 1d7b3+2=232d/5 1d7b5+5=2330/5 1d7ba=2339/5 1d7bb*2=233c/5 1d7bd+5=2340/5 " ++
  "1d7c2=2346/5 1d7c3=658/5 1d7c4=2323/5 1d7c5=232a/5 1d7c6=232d/5 1d7c7=2342/5 1d7c8=2339/5 " ++
  "1d7c9=2334/5 1d7ca=2324/b 1d7cb=2324/5 1d7ce+a=1f98/5 1d7d8+a=1f98/5 1d7e2+a=1f98/5 " ++
  "1d7ec+a=1f98/5 1d7f6+a=1f98/5 1d800+200=1aff 1da00*37=0/0/0 1da37+4=1cff 1da3b*32=0/0/0 " ++
  "1da6d+8=1d03 1da75=0/0/0 1da76+e=1d0b 1da84=0/0/0 1da85+2=1d19 1da87+5=4af 1da9b*5=0/0/0 " ++
  "1daa1*f=0/0/0 1e000+7=254a/4 1e008+11=2552/4 1e01b+7=2565/4 1e023+2=256d/4 1e026+5=2570/4 " ++
  "1e800+c5=406d 1e8c7+9=1f99 1e8d0*7=0/0/0 1e900+22=4152/8 1e922+22=4152 1e944*3=0/2/bd " ++
  "1e947=0/2/bf 1e948=0/2/c0 1e949=0/2/c1 1e94a=0/2/be 1e950+a=1f98 1e95e=26c 1e95f=27b " ++
  "1ee00=2672/5 1ee01=2674/5 1ee02=268f/5 1ee03=26a4/5 1ee05=2728/5 1ee06=26b4/5 1ee07=2699/5 " ++
  "1ee08=26d7/5 1ee09=2737/5 1ee0a=26f6/5 1ee0b=270c/5 1ee0c=2714/5 1ee0d=2718/5 1ee0e=26c6/5 " ++
  "1ee0f=26db/5 1ee10=26e4/5 1ee11=26d1/5 1ee12=26f0/5 1ee13=26b3/5 1ee14=26c7/5 1ee15+2=2685/5 " ++
  "1ee17=269a/5 1ee18=26a5/5 1ee19=26d2/5 1ee1a=26d8/5 1ee1b=26dc/5 1ee1c=2673/5 1ee1d=2719/5 " ++
  "1ee1e=26e5/5 1ee1f=26ef/5 1ee21=2674/5 1ee22=268f/5 1ee24=2722/5 1ee27=2699/5 1ee29=2737/5 " ++
  "1ee2a=26f6/5 1ee2b=270c/5 1ee2c=2714/5 1ee2d=2718/5 1ee2e=26c6/5 1ee2f=26db/5 1ee30=26e4/5 " ++
  "1ee31=26d1/5 1ee32=26f0/5 1ee34=26c7/5 1ee35+2=2685/5 1ee37=269a/5 1ee39=26d2/5 1ee3b=26dc/5 " ++
  "1ee42=268f/5 1ee47=2699/5 1ee49=2737/5 1ee4b=270c/5 1ee4d=2718/5 1ee4e=26c6/5 1ee4f=26db/5 " ++
  "1ee51=26d1/5 1ee52=26f0/5 1ee54=26c7/5 1ee57=269a/5 1ee59=26d2/5 1ee5b=26dc/5 1ee5d=2719/5 " ++
  "1ee5f=26ef/5 1ee61=2674/5 1ee62=268f/5 1ee64=2722/5 1ee67=2699/5 1ee68=26d7/5 1ee69=2737/5 " ++
  "1ee6a=26f6/5 1ee6c=2714/5 1ee6d=2718/5 1ee6e=26c6/5 1ee6f=26db/5 1ee70=26e4/5 1ee71=26d1/5 " ++
  "1ee72=26f0/5 1ee74=26c7/5 1ee75+2=2685/5 1ee77=269a/5 1ee79=26d2/5 1ee7a=26d8/5 1ee7b=26dc/5 " ++
  "1ee7c=2673/5 1ee7e=26e5/5 1ee80=2672/5 1ee81=2674/5 1ee82=268f/5 1ee83=26a4/5 1ee84=2722/5 " ++
  "1ee85=2728/5 1ee86=26b4/5 1ee87=2699/5 1ee88=26d7/5 1ee89=2737/5 1ee8b=270c/5 1ee8c=2714/5 " ++
  "1ee8d=2718/5 1ee8e=26c6/5 1ee8f=26db/5 1ee90=26e4/5 1ee91=26d1/5 1ee92=26f0/5 1ee93=26b3/5 " ++
  "1ee94=26c7/5 1ee95+2=2685/5 1ee97=269a/5 1ee98=26a5/5 1ee99=26d2/5 1ee9a=26d8/5 1ee9b=26dc/5 " ++
  "1eea1=2674/5 1eea2=268f/5 1eea3=26a4/5 1eea5=2728/5 1eea6=26b4/5 1eea7=2699/5 1eea8=26d7/5 " ++
  "1eea9=2737/5 1eeab=270c/5 1eeac=2714/5 1eead=2718/5 1eeae=26c6/5 1eeaf=26db/5 1eeb0=26e4/5 " ++
  "1eeb1=26d1/5 1eeb2=26f0/5 1eeb3=26b3/5 1eeb4=26c7/5 1eeb5+2=2685/5 1eeb7=269a/5 1eeb8=26a5/5 " ++
  "1eeb9=26d2/5 1eeba=26d8/5 1eebb=26dc/5 1eef0+2=52f 1f000+2c=1317 1f030+64=1343 1f0a0+f=13a7 " ++
  "1f0b1+f=13b6 1f0c1+f=13c5 1f0d1+25=13d4 1f100=1f98/4,27e/4 1f101=1f98/4,223/4 " ++
  "1f102=1f99/4,223/4 1f103=1f9a/4,223/4 1f104=1f9b/4,223/4 1f105=1f9c/4,223/4 1f106=1f9d/4,223/4 " ++
  "1f107=1f9e/4,223/4 1f108=1f9f/4,223/4 1f109=1fa0/4,223/4 1f10a=1fa1/4,223/4 1f10b*2=1f98/6 " ++
  "1f110=328/4,1fa2/a,329/4 1f111=328/4,1fbc/a,329/4 1f112=328/4,1fd6/a,329/4 " ++
  "1f113=328/4,1feb/a,329/4 1f114=328/4,2007/a,329/4 1f115=328/4,2042/a,329/4 " ++
  "1f116=328/4,2051/a,329/4 1f117=328/4,2075/a,329/4 1f118=328/4,2090/a,329/4 " ++
  "1f119=328/4,20ab/a,329/4 1f11a=328/4,20c4/a,329/4 1f11b=328/4,20d6/a,329/4 " ++
  "1f11c=328/4,2109/a,329/4 1f11d=328/4,2118/a,329/4 1f11e=328/4,213c/a,329/4 " ++
  "1f11f=328/4,216b/a,329/4 1f120=328/4,2180/a,329/4 1f121=328/4,2193/a,329/4 " ++
  "1f122=328/4,21d2/a,329/4 1f123=328/4,21f7/a,329/4 1f124=328/4,2217/a,329/4 " ++
  "1f125=328/4,2247/a,329/4 1f126=328/4,2259/a,329/4 1f127=328/4,2264/a,329/4 " ++
  "1f128=328/4,2270/a,329/4 1f129=328/4,2286/a,329/4 1f12a=38a/4,21d2/a,38b/4 1f12b=1fd6/c " ++
  "1f12c=2193/c 1f12d=1fd6/c,1feb/c 1f12e=2259/c,2286/c 1f130=1fa2/1d 1f131=1fbc/1d 1f132=1fd6/1d " ++
  "1f133=1feb/1d 1f134=2007/1d 1f135=2042/1d 1f136=2051/1d 1f137=2075/1d 1f138=2090/1d " ++
  "1f139=20ab/1d 1f13a=20c4/1d 1f13b=20d6/1d 1f13c=2109/1d 1f13d=2118/1d 1f13e=213c/1d " ++
  "1f13f=216b/1d 1f140=2180/1d 1f141=2193/1d 1f142=21d2/1d 1f143=21f7/1d 1f144=2217/1d " ++
  "1f145=2247/1d 1f146=2259/1d 1f147=2264/1d 1f148=2270/1d 1f149=2286/1d 1f14a=2075/1d,2247/1d " ++
  "1f14b=2109/1d,2247/1d 1f14c=21d2/1d,1feb/1d 1f14d=21d2/1d,21d2/1d " ++
  "1f14e=216b/1d,216b/1d,2247/1d 1f14f=2259/1d,1fd6/1d 1f150=1fa2/c 1f151=1fbc/c 1f152=1fd6/c " ++
  "1f153=1feb/c 1f154=2007/c 1f155=2042/c 1f156=2051/c 1f157=2075/c 1f158=2090/c 1f159=20ab/c " ++
  "1f15a=20c4/c 1f15b=20d6/c 1f15c=2109/c 1f15d=2118/c 1f15e=213c/c 1f15f=216b/c 1f160=2180/c " ++
  "1f161=2193/c 1f162=21d2/c 1f163=21f7/c 1f164=2217/c 1f165=2247/c 1f166=2259/c 1f167=2264/c " ++
  "1f168=2270/c 1f169=2286/c 1f16a=2109/14,1fd6/14 1f16b=2109/14,1feb/14 1f170=1fa2/1d " ++
  "1f171=1fbc/1d 1f172=1fd6/1d 1f173=1feb/1d 1f174=2007/1d 1f175=2042/1d 1f176=2051/1d " ++
  "1f177=2075/1d 1f178=2090/1d 1f179=20ab/1d 1f17a=20c4/1d 1f17b=20d6/1d 1f17c=2109/1d " ++
  "1f17d=2118/1d 1f17e=213c/1d 1f17f=216b/1d 1f180=2180/1d 1f181=2193/1d 1f182=21d2/1d " ++
  "1f183=21f7/1d 1f184=2217/1d 1f185=2247/1d 1f186=2259/1d 1f187=2264/1d 1f188=2270/1d " ++
  "1f189=2286/1d 1f18a=216b/1d 1f18b=2090/1d,1fd6/1d 1f18c=216b/1d,1fa2/1d 1f18d=21d2/1d,1fa2/1d " ++
  "1f18e=1fa2/1d,1fbc/1d 1f18f=2259/1d,1fd6/1d 1f190=1feb/1d,20ab/1d 1f191=1fd6/1d,20d6/1d " ++
  "1f192=1fd6/1d,213c/1d,213c/1d,20d6/1d 1f193=2042/1d,2193/1d,2007/1d,2007/1d " ++
  "1f194=2090/1d,1feb/1d 1f195=2118/1d,2007/1d,2259/1d 1f196=2118/1d,2051/1d " ++
  "1f197=213c/1d,20c4/1d 1f198=21d2/1d,213c/1d,21d2/1d 1f199=2217/1d,216b/1d,267/1c " ++
  "1f19a=2247/1d,21d2/1d 1f19b=1f9b/1c,1feb/1d " ++
  "1f19c=1f9a/1c,2118/1c,1feb/1c,209/1c,21d2/1d,1fd6/1c,2193/1c 1f19d=1f9a/1c,20c4/1d " ++
  "1f19e=1f9c/1c,20c4/1d 1f19f=1fa0/1c,20c4/1d 1f1a0=1f9d/1c,27e/1c,1f99/1c " ++
  "1f1a1=1f9f/1c,27e/1c,1f99/1c 1f1a2=1f9a/1c,1f9a/1c,27e/1c,1f9a/1c " ++
  "1f1a3=1f9e/1c,1f98/1c,216b/1d 1f1a4=1f99/1c,1f9a/1c,1f98/1c,216b/1d 1f1a5=1feb/1c " ++
  "1f1a6=2075/1d,1fd6/1c 1f1a7=2075/1d,1feb/1c,2193/1d " ++
  "1f1a8=2075/1d,2090/1c,209/1c,2193/1d,2007/1c,21d2/1c " ++
  "1f1a9=20d6/1d,213c/1c,21d2/1c,21d2/1c,20d6/1c,2007/1c,21d2/1c,21d2/1c " ++
  "1f1aa=21d2/1d,2075/1d,2247/1d 1f1ab=2217/1d,2075/1d,1feb/1d 1f1ac=2247/1d,213c/1d,1feb/1d " ++
  "1f1e6+1a=b22 1f200=42f8/1c,42e0/1c 1f201=42e4/1c,42e4/1c 1f202=42e5/1c 1f210=fb40/1c,e24b/0/0 " ++
  "1f211=fb40/1c,db57/0/0 1f212=fb40/1c,d3cc/0/0 1f213=42ed/1c,0/1c/37 1f214=fb40/1c,ce8c/0/0 " ++
  "1f215=fb40/1c,d91a/0/0 1f216=fb41/1c,89e3/0/0 1f217=fb40/1c,d929/0/0 1f218=fb40/1c,cea4/0/0 " ++
  "1f219=fb40/1c,e620/0/0 1f21a=fb40/1c,f121/0/0 1f21b=fb40/1c,e599/0/0 1f21c=fb40/1c,d24d/0/0 " ++
  "1f21d=fb40/1c,df8c/0/0 1f21e=fb40/1c,d18d/0/0 1f21f=fb40/1c,e5b0/0/0 1f220=fb40/1c,d21d/0/0 " ++
  "1f221=fb40/1c,fd42/0/0 1f222=fb40/1c,f51f/0/0 1f223=fb41/1c,8ca9/0/0 1f224=fb40/1c,d8f0/0/0 " ++
  "1f225=fb40/1c,d439/0/0 1f226=fb40/1c,ef14/0/0 1f227=fb40/1c,e295/0/0 1f228=fb40/1c,e355/0/0 " ++
  "1f229=fb40/1c,ce00/0/0 1f22a=fb40/1c,ce09/0/0 1f22b=fb41/1c,904a/0/0 1f22c=fb40/1c,dde6/0/0 " ++
  "1f22d=fb40/1c,ce2d/0/0 1f22e=fb40/1c,d3f3/0/0 1f22f=fb40/1c,e307/0/0 1f230=fb41/1c,8d70/0/0 " ++
  "1f231=fb40/1c,e253/0/0 1f232=fb40/1c,f981/0/0 1f233=fb40/1c,fa7a/0/0 1f234=fb40/1c,d408/0/0 " ++
  "1f235=fb40/1c,ee80/0/0 1f236=fb40/1c,e709/0/0 1f237=fb40/1c,e708/0/0 1f238=fb40/1c,f533/0/0 " ++
  "1f239=fb40/1c,d272/0/0 1f23a=fb40/1c,d5b6/0/0 1f23b=fb41/1c,914d/0/0 " ++
  "1f240=38a/4,fb40/4,e72c/0/0,38b/4 1f241=38a/4,fb40/4,ce09/0/0,38b/4 " ++
  "1f242=38a/4,fb40/4,ce8c/0/0,38b/4 1f243=38a/4,fb40/4,db89/0/0,38b/4 " ++
  "1f244=38a/4,fb40/4,f0b9/0/0,38b/4 1f245=38a/4,fb40/4,e253/0/0,38b/4 " ++
  "1f246=38a/4,fb40/4,f6d7/0/0,38b/4 1f247=38a/4,fb40/4,d2dd/0/0,38b/4 " ++
  "1f248=38a/4,fb40/4,e557/0/0,38b/4 1f250=fb40/6,df97/0/0 1f251=fb40/6,d3ef/0/0 1f300+300=1467 " ++
  "1f600+d3=189e 1f6e0+d=1976 1f6f0+7=1983 1f700+74=1990 1f780+55=1a04 1f800+c=1a69 1f810+38=1a75 " ++
  "1f850+a=1aad 1f860+28=1ab7 1f890+1e=1adf 1f910+f=1777 1f920+8=1787 1f930=1797 1f933+c=179a " ++
  "1f940+c=17a7 1f950+f=17b7 1f980+12=17e6 1f9c0=1826 e0001=0/0/0 e0020*60=0/0/0 e0100*f0=0/0/0"

/-- The whole table, in pieces. -/
def pieces : List String :=
  [latinGreekCyrillic, middleEastToBurma, jamoToPhonetic, punctuationAndSymbols,
   eastAsian, yiToForms, ancientScripts, planeSymbols]

end ElementTable
end Collation
end TableQuery
