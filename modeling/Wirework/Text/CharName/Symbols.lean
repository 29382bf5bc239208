/-!
# The names of signs, tags and selectors, and further names
-/

namespace Wirework.Text.CharName

def symbols : String := "
 @2ɞi|QUøEM?#)iȘEMȘÆE-Ý-?$,µ>$1Å%&2IGUrȘƁ?*+mȘHĹȘȾ|ɢTHȘ2Nj-Ǌ¢>#)hû-TO-o²o[$'û²ǭ,Nj-BrAKu|ǭ$1+Ō,i?#*
 M?#)ýĜ_ȁ,_ßǆ)Ȉʧo<%:Ȉ=W-9|ʧ1ǯ-rȚED]%4h)_ʧo<%:_<-8_$.BƱG¢_/$*BULzlɸ>$*js¶|zAD¢·:$/ýΘIqǭ÷Ū,ȳł,Ά[$./S1
 EMBEDDu?S0%%/POPērǓn|îtTu[)2ăRǫ?)0$%.NȖ|NO?Z)ȘPÖMILz&,1ɇ&hP.Mb_%$)Ʃ%$,³:$)1[&<hCArlȈʄA;]71o:&AhrFE
 RiCE²_ǎǪROBĸăǆǞTIɖA!CTÖTIb:2(|mSER<N.ΛM,ǭ[V+ȶɊ)ɦTpQUƠ,o]%>_Ɲʘ|ǎ<$/ƝTIRjIe&|ET>I.ILCϑ&,®ûǝ:6+®o%%0ß
 ȕ³ɽȔsâ·?&,S|nIGN¡ðLY,χMmUȜSWľ|Ō,Ó/I,FčʨƤÜ¶;%/,QUADRU$^-µ:&4FIV/(5·[$3>(,²ʇĔ,T.ƣŒ$'+qóĆΣȭbɲǊ¢FUNǓ|A
 PPL#èmVISIBLsTIMEq1ł,Čq@2066[Þ3ISOLt>§1^$-ΌxRjG]$+$°3%%,mHIȺ|SYMǂR#|SWAPPu,;h'VtE<%6^',A!B#|î|È$(0
 >%8NA?.*ɘÈPEqNOMI]$4ɻȾ,1ŮI:='74,µ:O'bÅ»Vi,Ã,NmbǤ,MmUqʆ)ʙ>$1ŮNhŘ;10jbɤ/0c?S(90h]0);/-Ĳa4bfX,ʖaH,KΝ,
 P,qT$)'A0hEURO-Κ&,ȹ&,CRUZEIRO&,FRiCH|FReC&,LI!&,MƠ&,NA]$,PEȟA&,ʥ&,Wj&,NEW|ÂQEL&,DjG&,EU>-+KIP&,TUG
 .K&,D!CHMA&,ȥMe|PiNY]-,O&,GUkeI&,AUxRn&,HRYVNIA&,CEDI$6+VRsTǧNOIȜSPESMI=&,TiGE&,mDĦʥ^1+RKĥ|<<-NyD#
 Ð&,Met$<+Bz&,(.&,ȺCOm&,SOM&%J'D0,Ŷ)HkPOj¬1o]$2àȁ|ʁÙ<%9eT#ʬEÿ¬^$9)<$/o>$1u|ʁ:)-Ru[-0;%9?Õ-S¬µ;$/iȔu
 |Çcıë,ŞsŏɊ1)oÿ?)4SCricǉC¹UPWkD|Ƞŕb1ʗS|ʁ_ɂ>C/NUITY¥ƘǞķɢsB.DGE?C.ǝÿ|ʁà_^.3oǝ$T+pBkB|ƌ,zF;&Jÿ¦o>$0ΛK¬
 @21¼ACCȎTǛ,ADDRãEDğƹŘJECT;>*-xRȂ|ȨITn|C,DEGrsCELSIUqąRsí¥CArǛ,CADA|UNaEULÖCjxelSCRUPz?)+FAHRiHEIlƬ
 §G,1?-+Hh°-*%%,$2:H,PLeCK<-,cɨŀPIhƬ/'+g<+8g>&2L,1§LhL|B|Bkæ:/:N,ɩO&,SĴ|rCyDu|ɚYo;,3P%*:PcQ%44R%49R
 %):R,Pr$)(ì|TAKbrSPjSE»RV#E²ͶE&,T!DEÐ&,Ț#z;,:Z,ȎCE&,OHM&,Ó>$+%49Z×ǍĲIOTaKELVm&,eGxȋ&$A3B[+9C,ExIMt
 EDæ[]1E[]-b]#+FhĮ>$,$-3M>T+Ohþ¥Ʋ¥GIMEL¥Dn:%-mî÷SǧCbɌ?+,Q,ĘȞIz&>E2§PIcGvMA]4-:$)$X,gN-kY|SUMMè0ĮSeͼ
 |;(,dLh³$&6L,>(=Y[12ITn#[%,Dc§DdbgJhòÝTY|í×Α,Ý&,AKTIESELSKAB×§F,ĂFy|SvA.TA]A,VULGk|ȶjsSEViTHdNmÎTi
 ÎɅcŀɅqjsFIFÎ·]#)qÜ%$*µ$$+jsÅÎFIV^#*qΈ,Æ%$+S:&'%$-%0(/$+hȶɩty|jbȋA[$*nΞEL^$(TɴVbFIFĕǨ>('%$-jsƪDh§?.
 4dɤ?.e%.1<%/|C|DcFIV/'.ɇ,³ǨhŮ³C^C2Å|Ltsîc[3(|EkLY|îdƪDcǨ/4.>^3Ⱦ[Z*×ɘ·cÆb@2190h^Ď2,UP/$/o<$/~;$/)oá
 Ŕ~áNyƙWExá1EAxÿhSOUƙ>$.1[&-^04ƕo>%;%(-źEáo^$3]&.ŀĎED/5,/%:o<%:~;%:[58ǀo;%8['4Fȋ|ĜUP$%8o:%8~/%7:J1p
 ǵE%.3ǻo;%8['9=Ïo;%9)o:H.c^M4hƌ|ʡ]b7pTIP|[/+q4oǝh~:'O]39Ǝ|ƌ,~;&:%+-%Ź2ġ>ȏ(Çá[%;:q:ğ|àBk]E-<%-BkÊo>%
 5:02ç/-0<%>;ũ?é/A*ƌhUP%';o;'*zF>E/]+P~$,]ÿÊ>À@?%-Ëƌ%¥9[E9,1PAIrDÿ[<.$%1o/%7~%%6>G5Ê]@5,o]&6^(4>*._
 ^w5)o/&=o<)A?,4?E,]$5/*;,~$%5[15]å2_%s4_%ç/_[ç2^&4?(.$é5Ʃ;57Ʃ>r6ȬIGG;'0:%2]a7p_ž~%&:;F5Ō?î.]$6o%%6
 ~$%5]µ:,o%%5/'.ɳ?7-[$5o$%5~](B>î2dj|PEDExn,5½ýĜ½őc/O04^(.ho%-:WnL>Ñ8Ǝ,]Y+;%5/c+?:5ÿpʔ~$¹<>V0,Ü]G3S
 >K3pɂbo;&D)o;&C:b:]-J_<.I_%/=Ą-/Ĵ4>%<)o>%6Fy|nL,ȸzMilƮInēFFERiTIn,ũsEXIxq1DOES|Ò<$)hΎSElmCR;))NABL
 aEzǃǛ,Ò|e|>$.ú<$/ǴAmS|AS|MEMB¢?,,<%*;%.§?'6ǏòOF?ǀ*òDUCl1CO^#+;ǂ.Mm;ʔ0-y-Ǥ,¶|ČqDIVIǢ|Ɋȟ|/'($ȩ-OÝty,
 Ru/$-BULzT;$-ĢROOlCUB]#*µTH$$)Pϐyìn|TfmFmIĕo|ƳbƳbʫED]$*SPǌ#n;$);3'ǫS]@,ʏ,PknzLğ:H(;$/=GǬeD,1yhǪƫ,ƨ
 j,mTEGRn,_;$,Ʃ;$/Ǵǧ<$-SURĘ$&.VOLUM<'/ʬ?$.1:)3h>ķ1]%1?b+FybBECAUSbRtIO;B-^M'[K+EXCESqGEOǂR#|;&.HOMO
 ĉT#,ƾE:L-³įÓ(ZY|qSmsźbWrtH>^+:D(į<])įASYMPTOT#nLY|EQUA<H,<%;APòXIMtE$%/1BUT|$((CTU<'0hNEIũ|:(1Ny$'
 6nMOx>/1[$)/&:y/%-ƘįnL:%-EQUIVniTğ]D+]6*<%1$³+CsƲWEi$9)AïSƹLIMIT%)+$=I|yƹIMAGEǛ,[#+|y|?A:ȹ|Ȧ,Ȧ|ƣRu
 |m>E.$D-CyrSPjDSğ>Ɂ,^((?Ε,Tfxk;++ƍTA$*-;3,BY|DEFmIì$¦-BY,ʘED?I/$I.Iȷ#:%-<$0xR#T;E4Lã-THe>M0ų/%1/'0
 Ê;'8Ê>'6;b*]'4?%:MUCH|>(,,1%'/h/U+Ò%621?',[+0>k-/0-Ny:M.ų;%5h[=/$-2ų?%:<-8$33ų]%7;.5$'/:.2:,.^-7<(
 2]-3?(/hͽEqSUCCEEDq>$+$S/?%+]$0[&,>;1/'.:%5;æ-ͽEc^&*hʓTǛ,İSE?č-|<%,c>%.?'.]00İ%%2:I./*/>Q0cİ:%6>,.
 pÒ%-8p^f2LTISEl1ʃL#A$ø-hĢ[·+,1O.Gmn[¹,%53^%+%%3C¹CUPȽČq1MmUqTIME<Ě4¶%ę:$Ĝ6Ȧ,Ōhċ^+7>*0ho|ǁ)ǁ~|ǁŔǁAS
 /Ϟ*,MOƍqTRUbFyCEqƘő|o|ǠSƿb_ő|_]&2<^/OVE;Z(TRU%%.FyCbNEGt¡%+M;k-Ǟ|rLè/g*%%4NyMn|ŘGROUP]Ŏ3[%2/'3;Q2:
 (?>&0/Z7>a)M¹ǌMITĦCjJUGtsMtRĖǪCntbXy,NeD,Ny]ń/pkC,o|ŕE^Ś*<Ŀ.cy,1<Ŀ5hë]W,$Y1xk/$,<e-]])ɛTIb)>:*ĘTy|
 SEȏIώ;Ĭ,o<&E)?(:/%7<Ĺ1sȦ,ǒ::-yceDh_ʓl1İSEl<<7PITCHFyK<v)£Pknz^ø1šų^$2ŻY|^÷1c]&/h/%,?V,:ã;;&4?*.^$8
 d;)0>á4h%Ù3^c,c:&*>$,hÒ|Ģ>Â7c?Â:h]'5:Ï0^Ê->%6h/Ě4[Ĉ9%&>[9,[%9[;+[%;Ò^¤5F:ư7<&3:(7^<2;)G:F-ð;ґ-ȏȳ^ғ
 7Ŕo|Ι;%/~>%;$Ǌ.pàýž3ő|t|Ǐ[&4h§^*3[(K%04¶ĀdăBk^+;[%*^(4ǞBkd·:-5Sh/G*S<:?c<:S[*+::R^'+:61§<%9Z|Ò÷ɜ<Ǫ
 *SHüDIvE¿&,EzCTR#áHūbŔǶ,~:$.òJECTIVbÝSP$$*źY|ǆ)CEILu,o/$,)F=y,o$$*đ|o|CRÏ1)Cϐhġ;%;³Ò&,Ģ=ZiGbkC»Gǃ»
 CTy,ͶE/γ*¢Ȱ|ΉVIEWDtA|ıʀËǪEx&×<.,WtěHǧG(Sqƽ)Ǝ,1o|Ǝhđ$&?ƽõ<Ǥ-đ]$2FϑN,SMIL;K1<ƾ+|;g2BkqOPì|ǉ,E!SEğƹo,
 XǜA|ώƳsŎ,ǉʌ,:Ӝ7ʋlo>%:>,1ŉBiZisƛCYLmDR#IĕnL|kĴ-òFILb<ҏ*Y,TOTn|RUNOUlDIMiǢ|O.Gm,CjǬTAP¢S=PbCȎ¿By$$,S
 mK,APL|/Ҩ+n|ĂI-BEvdȬĥ[Չ);#'[Ê*4$ȝ*ë,JOlÇdŞsSƿb4JOTdʕ|Ĝŏ/$,;*)Ɋ4ŏɊ<Ʊ9d[ɜ-Vebo;$-^))/&,á4o>$.d>н3]Ť-
 ;À,$ǝ)?4(^**~|CArl4>%(d^'-JOlUP>/2é$Ͱ1^&)OV]+,?+.é<+.dUP%+-~:+3~<+/QUOTE:42:$-ë<$,%J'%$-Ş<(.UPŢOE/
 .'^*):Q)[M,^J+ȹ>6+ēAErSIqƍ/$.xk:$-$.'/$.Ç<$.~ŢO/W+);$.ƾ:'.<T0$%.ŵ|>C+įZ<#(Sƿsį/Ԋ,|Ǟ?_,Ò<g+ʘd>Q-|įU
 P:$0IOTaRHfŬanPH$F.Eȍ<$-IO]H/Ŭ:$-<()hÒ|ɯÐ;Ÿ4^Q.ʡÿƔULDEƜçŎ,ǕL¥ȁpÄķ<Ծ,¥ǴmUū|Ǟí¥DIS[%?EMƂSIS¥ǔȰ¥ÑċEpą
 Rsȁ,i¿¥ΒIVsǉ¥HELM¥ĐýBkpÒě1ŕs~hBɿi|ÇpNyTH%λ.ɵO¥MjOSƚz¥HYxEr?8.Ą-ʊUIT-ĳPUT|H-TYPE¥1L:$/hPASSƇ-PƖ-~^'
 *¥]%0UP?%2?ƒ*ǳRiT|Ăî|TWfȮWAr-^Ó+æ[Õ9$¦)DECIMn|ł<D/PrVIū|PAGbNƢ]#)PRmT?Ҷ)]W-zk[$1/Ԍ4éÝƺcƢiǢ,čėho?'R
 )ɦT]'*Ǝd$(3Ǝho:(Y)ǒY%(1ƺdÄPIECE?20>'1<+-o:*W?Ğ+]).ýí:%.;*))y|č$.7ƫ,1o^&-)]&8h[Ѫ,|TÏ1đhƽɦlđ^$2Ĭ/'5h
 !D#:c-đ,)ŒŎ|ǆo%%6ýSCe|í-1cí-3,í-7>#)9hȷIxRY|ĂL]*0£ƽo,5đ|o,4½Çd~£ŜpōUP?%?ðpŕb?*4$&4UP]%A:50ź>*>ź/*;
 /(<:'5,??4zF>?-ûhĢʚ,rǠ¥EJECT¥ð[f3ǂRǬBrVb1ŇÊSHylÙɨ=Õ]%-·/&)q^#-[&-dǊö1T.SEMbTET!]#(PiT]#(hEkƙGRĴ,FU
 Sbġ%տ0đ?$0ġ:q)?l2]$2ƽʑ:'2?%;ÑT!PEZIUM:Ů0pōx!ɔNESqF([#)AC]ß+^ƭ*ǬǪƫ]Û,EXPjiT¥®oɟ_ŕb1ʄ_?d.<%=~?%=]-Ap
 ő,zF:'O[+2[&2_őhnkM|CLƄ,SġWtCH:ʎ(R^$):Ư-pF=Wu|SeD,®ó|zF/.6coɟ[@7%@1$%5h%47®ċEƻxÏ®ÇƻrCyD,POWER¥1j-O
 FF¥j¥SzEPæhOBSERVÖEYEæ;Ӫ/NƖcxkTËĎu,4TƢcǏ%$(4TReSMISǢciQUIRY,ŠNOWzDGbǕL,ŏȭbýƚULèȳFEöð?%/î?%)Ck.AGsr
 ǠǚFT|ĳdmcDtA|LmK|ESȨbDEV#sǴROL|jb4%ӝ1cʂs<3/SYNCHRjū|IDLbǏ[8/|B%X(CeCŋǏó,ŘxITUTb>/*FILsł,?ȿ(;$.^L)<
 $.ƨT:$.ȭbDEzTEhBLeK¥çŎ^K0EWíc<')?Ń,]0,[$/@2440hOCRƺ,1CHĹ,FyK,Ó/$(ǕT|BȂLbɛ|TIbBReCH|BeK|IȷIF#èvȎTËɯ
 ,Ō,CUxOMÖACC[%(Ņ,_ŏʕ?0'60Ƚɘ]ԑQ1ȱc^Ԇ*Π[#)Ω$*)TE;**ȫ?*(TE/)(iTYhɎIZ[1f[1zɘjsĶ1ŀĶÜĶµ:$/IVsĶÅ|ʅ].)|ĶÃ|
 ĶNI$./hȱ$0/EL;)1<:(?-/;;,%21?$4IF>$2ɋ%33[$1^?,[32?$1[A*|ʅ<Q3ŮʟȽȤʟc>0f1ȧhʂsĐŅ|<L)d/dq_Đέȱ%46ȧ,Ŏ|D!W
 uS|ĵŜcɭVY>$/ĵð,]%(:$-ĵƘŌ|Ŝ^&)>%8/(7$,2;%9ŭ>ǈ(RU;-<]%;[(2^-:?%<ĵ~£o,~|ŭ£o|<)(d>#($%.ŭ/C*<)2;+3zF:+4
 )/+4)%+9ŉŭé[,.UP%3W%)/]*2ŉUP>2U](/%[2[,.ð<3:Ŕ?33~<,*~]%4ŔL/+1?94;N=%-+[@7^,-<X)[55$88zF^78)]76)[7=
 )?7?)>78)<79);7<;L3<ƹ7)]I>o^77>29Ŝ/[5Ŝ[[+o[5>)%MC<67]j,?87?]=o?J<UP%8b;M<)?e<;w/%Ö=%8Hð?8=/&2^i8Ŝ<
 j7~|Ŝ$k8é%&5Œ]@>)UP>bE]w@)~;RC~]R5/i4%65;y7~%&5]S8ð;T?ð<¦8<U9_<û8>%//(9^ú9;%9_Ŝ,_ð,~|ȈeD]ջ0d_/%,[&
 *c_~£o^)4)])6)[)6;ñ/<0]]ÿ3%0Zé/á5<0]^ý?>1Z/Þ4]E5Ŝ>*7Ŝ%+3[ɓ9%+h%ɚ=<+g>tBkC>b36ŉ4>O/6odư$ʪ*oğ|čŉ5)[$
 ,o,4ďdŉâo,~c/y)ûd;%2ĵû£[&)odUP[$.?)3£ŭ/'2ĵ~h[4)õ[ǽ*čΈ$%)cǣ:$*1Æ%&+S]$*:).FIV?%3ɹ]$*»Vi?&1hFƖ$$*):&
 71ɹS[--<0>:37js]61[93ho<=/ĵƀbó%$*DkK^#*Ť[@7o$%5/ž(eT[W.co,1Ť?$*deD%&.£<Z/5o,4<`/>'0l8oco,%&86]*2h®
 ıÑı2½ɾƎS/ϴ+u|®§ı0ċEpýɮcð:$)yǡGjnĔHtCH|ɮ%C*;s6|ɮd?w6^+*Ι<*5h[26¾?$1°;Ϗ,b¾;$.®ð?&3/%7°$ѹ+=ȑ,¾[$2®>ɿ8
 ¾;%8]'6ú;(2^%?®o%.<o;.<o?.Bo^.QŪ¢¾>%;®~%4<~$4<~^3B~]3BzF[?=ʄ/(5>?Cû>.E;?;<%:®ë,Ñëc<¤:ëhȒEYb[ж+Ñōǐō
 Çp^¦1BƖSEYb°:'7)Ŋ°co>$/č<$.Ť<$0do|;Ê+?)+nL|BU^ͳ+)%&1h)Ŋ>10o%%6mȚsBULzl1$</h[0.?&+^%0=W]%@/27ʊɣkC,1
 o>%9hčo[(;:+=/4/^26ō®čo;a,c)ŕE^ë./&/?'1hɳ:A,ċ<SK:>/ư:V5o]%7h[ϝ5ŒBISECTu|Lm/Ì?š?%=)%b4>/0ůsō[04]c7d
 =W]$44o:&.Ť%S3l1Ş:+yh>P71>P3=W:&4Ñó$ü0[$0>&1/Ā6:%8<b8®SUNp!YqC=UD,UMBrǅSNOWȲǔEl®xk,¾^#)ŭNu,THǞxyM,
 SāAΕu|NODbDE;$1CjJUNǓ,OPȰ,®Ͷb¾;$.ΰc½ɯ,½XhSnTIr]4,p!m|DϐqH<('EVE!G;[,HOGI%Ϙ*°>$/¤vRƄ,³Ɍ|FLyn|HEkT?¡
 +®)Ƞƈ,®o;%3¾['81UP?$3^(8~[$2hSKƖ£ďBjEqCAUì&,!DIOACTƇ&,BIOHAZkȓCADUCEUqeKH,yǡDOXĔ±I|RHfďËLy!mEcJERU
 SAzMhxk^.*>Q(lFkSI¥ADI|ÈKTgHvMER£S#KLbPEACE¥Ym|YĸT.ȑƻɭVic(KbFIr[^+,ȿ,WAĊʪ,EkTHhWHEELËDHkMaÑFϑNu|Ę]
 S,MIL?$,°?$1¾$p2Όǣ|ɐ,(>$3MERǳY,FEMAz&:1*;$-JUPIĊSAǠ,UReUqNEPTUNbČTfA.EqTAɃqGEMmgCeC¢zfVIRGfLIBRaSC
 yPIUqSAGITTA.UqȨR#yN,AQU?$)PISCEq¾ļã|Kucɍi,ROOK,BĥÏKNɫlPAWNh°;'N1SPADsSUITh¾<p)>$(%ī1?$)®CLUB%&/:)
 .°/).?Ĳ1['./).HOT|SPRuqǣ|ÒbÃH$$)BEv¡?$.q1ɋ<$+hMUS#|FLt&,1NtURn&¤kP&hWEx|SY.ACĔ,EA>$3ƨȚn|rCYCLu¥<$3
 ƻTYPE-1|P(x#Sd<$(2<$-;$(3;$24;$25;$26;$27;$-GiER#|MtE.nSh®]3D¡PAÝ¥ƮInLY-]%9ÝMeiT$%)&,?¡(CHĹ¥DIE;w(
 Ɠ5]ř0p¶|odͱ/3+<&0¾$'2]$-ShMjOȑƻYeGcYmhDI^$,ų?%*LãÖYmd>$)]%,mhÑF(G,°^#(>¿/P#K,eCHy,ď¡SʢqxAFFËAESCU(
 /¤)CAzqAzMB#,F=W¢GEk:'-ǌMEqtOM¥FzUR-DE-LIqĳLm¡:Ă.ÜíS|CjŻGu|odûhWkNu&,êVOLɈE&,ǲL¡>½/1^#,hǪLƄ/&,£$&-
 ?$*^(2½ɉE&deD|^&7hð[%)/(4Ŝ^%:ó%Ų11®ōú^%0hM;Ϫ*/b-VyCE¥UNMk.¡ƮNERSHIP¥COFFm,FUNERn|URN,NEUĊCErqPn(qJ
 UNfVExA±IRj,®ɐ|LIňH»Xƿ%Ԙ)$$+QUmCUNX»ȬI:Ņ(tbSOCCÖBnL,ǵE[#(ċ¡ǉ,ÑD!UGHTS|MecKuh°:%8:ĺ*%B(ĳ|SNƃSUN|BEH
 mD|>ľ)RŐ®;'*<Ā+^%)£!m×?ĭ51[ĭ4hÑëǜıďu|LeEqDISA>a(Ck,OPHIUCHUq$v(Ck|SLIDu,HELǂp¾Ĕ,Đ]*1±AmqNO|iTRY,Ƿj
 E-WAY|)[#'T!FF#,®·[%9¾[%=®)LesMERGb¾^$4D.VsS=W&>Ί*/ǵ@)Ə$6(%T,$Ŗ+FnLu|ư|m]k0ǜ°$ų1TRȂ,rxR#T¡)^+(Ǻ,Ax
 RjOM#næƻ>Ğ)$4*ÇĻ£ƗǾ:қ*ȑ,o-Ɗ¡Ǫ(C¡$&-zF^%AÓ?$-°Ĕ|jŢIELD¤mTOŢRmɖURěCAxLbHIxy#|SITbGEk]m,HUB,1½ƊzShMAP
 ;:/ŭHūbʪ<Ź-j<ү,<%+F(GǜHOLbFER%L'ȻBOAlĢǱƎqSKI¢#sSKtbǥpBnL,TilJAPeESsBeK¥ĎSŖŴEYkD¥FUEL|PUMP,CŔO;S2[ï
 -pýÄ®SƩb®SAFETY|SCISSyS]Ǚ*B(DE]$-°:$-=W/&5ɳ:$4;Z(]փ/Ͷs=CAì&,TAPsD.VbĹPLebiVE=PbɧFISl1ƊhV#TyYţ,ζ^Ƹ0
 PiCŰ>#*Ť:%3ÑNIB,°]#([2.:44ʃL#÷X$&*$%3;Ʋ*]%,:$+:Ĉ-Ǎď/&)>$0çąr/&0%%5LtmĔ,ƀOW¡Ñ;%.]-,]$0MnTES?)+xkËDA
 VID,ǱTEkDϐ-SPOK¡ȕµ:6)j>%2$?+%&@µ>ũ(:%4®ǱŪED:ǜ.%%6SPkKzqxRã|;Ĩ7Ş?$0$C0>ǥ.°%%*/'.^?,^&.^7*:%7Pm:Ƭ)xk
 ]G2;(/ȕ]//ȕÃ|%=31Ū%-0c/-0hÅ|<&6Ã/%,ώIík;65]&G/Ѱ*>,7ɋ;%,ȕ]X2;:8/],>Y9[%=;9(ETnL]/+£ÑF=rTTb°:$-?%2Ã:
 ),;N-]'2Đ>3.^>2xk$3:$J+]3.NOWF(KbT?Ȧ+FOLIts;%,[³-VRj%%-^i*]%+/$+]t;Ã:05ϐELzR%D3/'LďÐ;h3ōʂsċ¡<',/ɭ1
 ;,($)2ıŤ<&F$*0>)<$&B®ʘ|ôyNvil¾>%AΫA]%4:ǟ3MmUS|¾?Ù+;(4¥ĵő,ó|ő/))?$11ȈĮŵ|QUOT>16c[%A1_])H_:&AßȈ^0B%*
 GhǳV¡xEM|Ά&:&,]C0]78HEkT:LD;&(hɌ|[*)°<ɟ1:ɡ.l/ɣ>/M+)ɎIS]0.o<%9FLtTiED[(=co:+:ʄƳsʋT;&-o;&Ch:;);*6?Y=
 o%'K>2pĵ)ʑ^&51o<&Ch<L/ǒY[):?%;hDuBt|ʂ^Ӭ74ɤEdȱ,1ĐSeͼ>*fʂs;+@5ɤb4ȱ;X+Wǫ-Ď¡oǝá1Ǥ,MmUȜDIVIǢ&,SOUƙEAxá:
 )4Ny$&0hD!FTu|Ū]-5$1)RĴ-TIPP%17ŕ%4+/);<&DŌ¡%*J%'K°$%4:I)-D|ġ-ŭ;(1Ƕ,1đ:&@h°<%9/Ã/;Ï*ƌ|e;*5dUP?%=hȬt
 |°]<;CjCAVE-ŪED$';o-ƀ¡¾/&5zF%&Cŏ-ƿTED:Ď*^&=FRjT$'9>5;čo-<'C1Ť$'KhÒïD]+PǒY|=Ï?(+<-OĐ]6(:&;¾-FEAũ]e<
 ^%.>¦41?¦F].)[)Cc[)F^ŏ,BkB$36%ť4HeK>&7WEDGE-ŗ:)=/&AĄ-ĳLm[%7_/L.ÜDIMiǢn|;ϋ/ŕs]ρ.§]%0bÝPiD#ULk,çʓl1İ
 ȟh)SͰ¡ɜ|ƍIMIĊo>%;yp¶|mȊbʗS|ͽu]-+[-+:%.ɼqőpýžMAΣ.Su|ư,à%á+]&1/Ɉ2;ɼ-=GǬeDcy<ɭ2pąƜķeDšEzǃËĄuéǝ$ź0Ǝš]w
 ));%3)ĳÖǊ,o<$/FƖ;$/ůsŔǁ1~|ǁ0)>Ӏ-_ǠxIzdǁ1>Ȋ(MAPhào^)*)ǁ0[+*pÇǾ?ϸ,ʏD|BY|ýRU^b+<Õ,S<&(ëd½zF:k*TI]ͼ+o]
 $.1Ģ;'6d$'2h:Q0)Ñɦl1o<%9)Ƴ?$-o[$2)_%'5;%:)Ñʑ<(0%&B)^Ŭ-ʙ<%:h;a*?π)UPzá~:%9eT#ʬsGAPP¡Çá?%AoÿpĐČqŇ:M-
 ?Ù<)oá>'-_],-%%7)o%%1$.2|Fȋ|Ĝo:%7$.4/(7^%?cȬIGGzá@28¼B!ƠsPt¿N|BLeKc¶SǺ,]#)2?#)3:$*?#*2;$+[#+4;$*4]
 %*;$+[#+34](+$&+>$,]#,5<$*5$&*;$+[#+35%)+$&+>$,]#,45;/+/&+>$,]#,34>),;&,[$-^#-6>$*6/&*;$+[#+36;)+$
 &+>$,]#,46$0+/&+>$,]#,34>),;&,[$-^#-56/=+;&+>$,]#,35]),;&,[$-^#-45]0,>&,[$-^#-34:*-[&-^$.$$.7?$*7;
 &*;$+[#+37?)+$&+>$,]#,47?0+/&+>$,]#,34>),;&,[$-^#-57>>+;&+>$,]#,35]),;&,[$-^#-45]0,>&,[$-^#-34:*-[
 &-^$.$$.67:Z+>&+>$,]#,36%*,;&,[$-^#-46<1,>&,[$-^#-34:*-[&-^$.$$.56%@,[&,[$-^#-35>*-[&-^$.$$.45:2-^
 &-^$.$$.34$+.%'.%%/%$/8[$*8>&*;$+[#+38^)+$&+>$,]#,48:1+/&+>$,]#,34>),;&,[$-^#-58^?+;&+>$,]#,35]),;
 &,[$-^#-45]0,>&,[$-^#-34:*-[&-^$.$$.68%^+>&+>$,]#,36%*,;&,[$-^#-46<1,>&,[$-^#-34:*-[&-^$.$$.56%@,[
 &,[$-^#-35>*-[&-^$.$$.45:2-^&-^$.$$.34$+.%'.%%/%$/7]$+7[&+>$,]#,37;*,;&,[$-^#-47%2,>&,[$-^#-34:*-[
 &-^$.$$.57<A,[&,[$-^#-35>*-[&-^$.$$.45:2-^&-^$.$$.34$+.%'.%%/%$/67%a,^&,[$-^#-36]*-[&-^$.$$.46^2-^
 &-^$.$$.34$+.%'.%%/%$/56$C-%'-^$.$$.35:+.%'.%%/%$/45[3.:'.%%/%$/34[+/<'/:%0/$*hoǝ|·;Ȣ*ÿpɂb4_ɂEh?ł3
 /)?o$'K)o$'F]58/Œuƌÿ$ǅ;UP:&F1ƘȖhƌ|Ƙ>ŭ:Ōáo>%4%(4Ʃ%(5>%<1$@-?%6ȖpǐxEMh$90ğ<>,$%6o:=4ŗ/N95?]:1;c9ǀ5?)
 8½[dDÿ-ǀo^$3]G4<':_%(2];2%ֈ1o$&?:Ɨ<])9]&I^ȯ*WEx|e:Ȼ7EA;%-[&*á^#-ǻEA]$5h]*3ǻ1;)7hNy^,0£Ny:16ÿ:48$.5
 ;591<,2;.3h<ȝ2Ĕu]ț5FnL]&8?ȣ4%13Ĕu%85Ny]&9$94>.4[*>%02?*0>.KNy%A4^5EhźEÿ|ȠDIώLY|o,?%1/ȕ0Hi|ǳV;ȵ/5ƌc
 ~]&6û$'*oǝho-ȊskC|Cʬ^Ê.?%.eTI$&3ġ<%<đ:(?>-7pMmUSc$(6pČSh%ͼ0EMIʊɣ[,31)%&/:07h]$1Ȕ;ȏ3?%@?²4ǾsÙzF^ȏ3^
 &;]ʋ5Ù?+9%+-//4^>3¦zF]%=](7THROUGH|X,)o;%2ʔUP%Ē?ʔ)BkB|Ŕo/$)~|HkPOjc~|o^&+<%+hUP[$)o|~;$))^(,)~$'.%
 )-%//;,::,/?)<[5.~^53^)4)/39:I->$+p[0*<Č/<&FUP/&;o<&+~?&G/1@~;1H~>1E)<1.>&F??B$Ŋ1?&C$@G?&-~]&E;@H%
 2J~:2G)/20[&D%AFǾs<5C[0CBEȊs>CAlo[/Do]/@~$0G^LD^<I>3B,4~%4Kho>GG<-D<KJh^7HàŌ;+*ʍ^$-ho;)fUP:Kj~%`h;
 Ʒ;ɾĎ,Ȧ&<O4áƾsOÝty;&.:ĉF;(1,o;&CdnMΥhLã-Ž]S.:.3<Ć8$(,,ų-Ž%8<ʓT?%.$,Hʓlİȟ?1:)Ȓ|ǀo;$.UP%$.~:$.Ƙő|ƍIMI
 ĊZ|Ò÷SPOTcTYPsȹh)¾>Ѕ0lo:%8)Ñʙ%%6<./)IMAGE^)+co]$2)BmDu%00^$4h)ɦTpǞĜo%&A/)<T#KǜƽƎ,o$'@đ:'+)/'Mo?/K)
 %л0šo>%;)kC[i-?C0<%)ų[%1_):&Co:,:)®ʑ;/0%&BǐFiCbŒʡ|ǆʫED$;*Ąu|zF:=1VA.eTpċ;(.?&.š:$.S<Φ+ACUTsƳbSPǌ#n
 %.6dUPhĮƳb³eGz<+)>a2³>%7OBLIɍ],1éd~h$;1pçkM|E<q)m>ƻ2é£o,9/$*ŉ~<%.~>%-o£â)$$)/%.~;%-~h³ΎSEl]#,păBkd
 ú]Λ1oÿ¬)<$.hÇpýĜĐő,1PknLŋʗS;ϝ1hŞ%Χ;Bk£ƽõ<&.$-2½İIMPOS¡XȽ$Ƽ0-Ɍ|^Ѫ1UP^à2Ç>Ֆ1:ҽ+1?#*:í9;>1<D/ğƹoc·/ɦ5
 S:&0hċ¡?Ǿ3Ɋ1FnL%%6ȕʔı0ŀǊED$z*qT.$y1ǽ<m+hSǜŕE;'2SE.FS|t|đ,o%',Ǿs)ŕb/$0>Ħ*[M1ő^%+o/)-ɛTIEp)Ŋ°co>$.h®
 ['(bTIMES:(LÑHǧG(Sq°;$.)η;Æ*o?$1)_^&4:%9mȸzTsmFmIĕTIEÊ>$,[#+[Ӊ)EDpő,ǲz-iD¡[Ͻ+:S*pǴǧ[է,bmCrASES|ASƸ
 FFLsòDUClȦ&£SLeT¡?¦,5½ƾEĀhIȷ#nğ['9Gz#H|xkK,ũMODYNv#,~ɟŕ/Q9d/Q;ëp~á®=ZiGbÑÇ]&9>%;ERRy-BkR^՛31®ıÑë,%
 10;.0^,0hRUz-DE(YöʗS%ş-ɼS:Õ0%'3<э;BI]ё-1ʗSh_ČqƩ$$+ʄ;Ӏ):З6/&CTmY,MmY,N-kY|Đ¶%7,cPL<8.^¡(:$.1ƨj;$,š4
 Čq1ĢǪƫ/+.<(1h·$џ/[&.y<&.[2)</2MODU=|ŀSÚSUMMAìpmTEGRn,]П,?$,$)-FmITsƮ;'-[#+p_ž1AVE!GEpʕhʊUL÷FUNǓ/Щ0
 %.+èLm<$0pώeGɣPAƙkĴƦzd/ɫ+[%8cÒ|mCLUDuƹPOzh;5+%'+A|Ū::,]<'¿NIj^<5$;1%ƒ3ĭc%H'Ȝ[P/,ƨj,[l+$ë-:ѻ,$æ2%.+
 <ƒ1ïMA|ǔȰdPIPu,òJEǓhǤp^ħ5dΐą¬;Ä/ŝƾE¦ŘƬTWf°;3,hMm/.0ŵĀdŝ%ċ+¶q.S$$+hǤǜ)ŊÇdo?$/hVECTy|yĔ;Ú,ʃL#Aì&?Ď2d
 >F-SEȏIώ](+pđ|ȔöSMÛ]+:<3OȽ$2<^H3$-<_ōŞ:Ľ4Ǥ>ģ0Mm$%6;,2]%5ǪIy^:,oƊ|;%3?c/r(ìn$d0vnGv÷y|CO;(*>o0šƨjp;
 4-c^q*h]'5;%*c]Æ.h<).%%+y,1[S's/)/<*1ǾsUN%£)>$-Bk|<(6;(6Bk:)5;Ľ*£ǊEDpUN:)0[&=[-1Əƨj%ŏ.q1<&,:%2h_%æ
 6cƨjh]*;£;l1%D.>t31y?$2h_$Ԃ4·>/-u$&/dyhS=Pu|ůsyceDh>M-|ă(PP?(31eDpÄxĨy[$5eDpýŌ,y%%8;'-_<^*;±._;$+h
 §VE;ǃ3/5-;*84^(-?s.DOMAm|eTIrx.ǓcReGE$%3hȦ&pŝ<Ő,<J3Ƙ;ƭ2^Α?4Ʃ%%5h<ɏ/$T4d>Ø0ȞILk[¦*/$*,CjGRUiT<(3Ȧpȕ
 nMΥ>È;APòXIMtELY%'*y^',/ɬ6Ǥ,Č:%0ʆȦ&]ɦ9_ȹ/(),ŀCjSECUTI/*1qÜ[%<;N4ƗĀ£ɷEQUIVniTpµ>'.<ǋ-pÇ:ȍ+ų]%:<(4ʘÐ
 ¬ų;&;%/4y]ƌ+?H-ų^%<?(Ap¶;62;'L>+J]81:'J;+Pso^+Rsû;,1:k-bų<%6/1.£Suz-ȳÒ]H4[&E:*2Ò>/7^%0$08]s+ǲ;,)>m
 *Ǿsų[ȍ0$(G?+,>,3>µ+$¬,,ų/&?/);^16%*>$1D:7A]2=/A>;49$[+^C7<&6$.1<)C[,@,%g4y];.4ų%=2<¦;>%8h/:.;,H1<0
 A5$'/h^L*/&0c:*1%;9ʆ[D<ʆ0_NExED$-/]=>?ĕ.;&/^ĥ/?).1BEȊ>2.h%*-ƏBY|ǳVbų>%9^'<<X?;'MúÖ]1(ů$$*/%0:ą/:&/
 <ć;pBUMPY¬ͽESĀ:¾0ʆSUCCEED<&B$*2;Å<%*+>&C/*1/0>%/>$.?^,AnMOS:(5[%:?-6^(;%&?_ͽEq_/(*qʓTšİ>$/$&0Ǥ¦İ?%
 ;/(/:ǀ2%)4>&:$*5Ëy;Ċ<İ<&D])-]O6İ?%;/(-[Ň9İ^%>[(->P:İ$&?^(-^[7İ[%=Ģ)çŎ%1-1o/%5hƏʓl1/,*$T,y[.2]$2h/ͳ
 0?(,İ%%/B?**[$4İ^(5]É*<&+c;Ǆ.BY|ŌpʓThEzǃËĄu|ƌ,PITCHFyKpTEsTÏTReSȚn<Ǆ1FyKu,Nj^#+Ù)ǁ1~|ǁŔǁ0ÝPiD#ULkp
 qő|Ƙo|ǠSƿb_ő|)%&,;)1_):)4[&FàŌ:Ё))MEMBERË_ð,Ù[8,:Ǽ11$:*[õ1d$M):(2h_~[@*]?+ɉsÒ&h³_^%3DOES|Òʏp³NEG÷Ɋ
 ȁpÇ¬4ʍh]72Ç¦PknzL:ʪ:c?«1h]έ7BmkY:Ȥ,d^):1ȹ^)-;ęA:į1SLe$'0$z/cų:%4hƘɼS>24ůs;66%2-_ɼS%%-Ñő,[ʩ)/%5[ӟ/¾
 ^ӝ0¾:ԁ.[&J)o|ɳ<Փ5°áUP[$5~^$4<2/°?.0°<2.[&J)o<02|~[$/>Ց;IP|ƌ,4?5*hzF$'MċEpƽŊ°cđ?$/ŤÖo|ư]%/č)[%6hëp)
 %-/o>$/%02$04hǐı®ůsı¾?$1®ŻY|ú]&0%%6®PiɈj,¾:$3HEX/$(°/$,ý/%0:20ō®ó|ë,¾]$2[&1=ZiGb¾]$3®§ëc>%*hÑú<'2ý
 Θb¾/%7®ð:'1$%5)ȖpʔÜ]c2S?'4ĐČqŇ>'.ȬIGGL:¦//ӻ9pɂb4_ɂEd$Ҫ+cƘŌá1ȖpǐxEMdŗ;,95;,:1%29ǀ5?)8½$*;%ԗ2hźE<ϥ2ē
 ώLY|û[Ɋ4:G4?ϑ,[Ѳ7$ԲJrȚ:Ō4%Ԩ<]ǁ0dİȟh>+-QUADRUPzáo;%2<4@]ѯ;o?4M/<][)4d:29h:0:/':ƌ|ŕE;Z+ʡáÙ?ċ+NyT]f,ŏ
 /%+SOU/%+h?±0xk;±/<$)¾<$/®oɟ;Å1?%<ɭVY:Ã11OVnpOVn;Ȅ+Ç<ɶ6c,1ĐSnTIrh:96ĭ:Һ+[:2?&8ǀ$*<ýŗ;*3$'BiT[z3%N.
 Hi|/ē,lÙ?'Qû/U8áUP?%?o^%?~]%?)o>.<|~?%:/5)WES?(;1EA<%5$Ĭ3>(=%+=h<?=Ō<4.:&Fo>&F~<&FCʬE<&4çÇáeTI:'N^
 UC]ն-:&Fo>&F~<&F@2B76:S.%'@^S'%&B>T-])D$-Dh;?Bp_ýžUP;(^o?(^~>(^ýƚ|ǉ,ð<$+%YCÊo>¶]|$,,Ë~[)?o/0D>3B,~
 :0L/4:<tDPĹ<&+qUP;&Go?&G~>&F[ư4Đ¾?H,$&Co:&C~/&B:Й1^34o|UͰ?4+cđ$%3)[$2ġ?$2hrǠ|ŉ1ohNEWí]$1ǱƎÿS|Şu|>3
 0<;4á@2B97,ĂFy|TYPsA|EzCTRj#qÆE-D|ġ-ŭED;[.EQUI(¿n|Ƕ,1o/'+é$'?$+/o$'?zF^*-~$'>h°[2E<1A;0D//D]zBpàTI
 P]2,q6oǝhUP$)eû/)L[J*qo^'U],Q~$--%(X°^ґ+ƌ£/ž34o>$.cUP/'P%&-e^f,áo>%;%(1~:(3[%=h.BBjÿ|~|ûdocUP;$1)â
 o|â)~,o|~[Y,<½/|:ǎ+/Ճ8ŔǶǜA|ώƳsŎ,%ϻ./Ӑ0SceD|°?$,1:$0hΰpĵX,ĐX,1BÞ|Xh®Ģąr[Ӗ2^$+×[Ȑ-]Ȍ9OC/%)/$7óéɟŕ:.,
 c~]%>û[%>o]%=hNEPTUNsî|·^ȯ2|ōđ/%6ĵǱŪ¡]n+SP,Ɍ|;&A¾?%0>(1]%;ĢȰ|ΉUNCERTAmTY&,GROUP²ČTO[8,cÆbµ,FƇhTReS
 ČTfòSERPmaAx!EaHYGIEƵOLUqNãUqÑɐ|SELiA:V2jĔ,TRUsŭ%')kTaCUPIDfHADEqZEUqKRjOqAPǩj,ADǂOqVULCeUqPOSEIDj
 ,)]G.xk,o^$4xk>ՒL>ȪB%X-ǶqUP<'So['S~?'SE.S:P)jEc·hSEDNaRUSSĦAxRO=GǬĂVIGmTIzdNOVILbQU<$*BI>$*S<¦+TrD
 ECIz?э5;գ,¦ƨTEDæ»PA!<$.ǲL:$-PASS/$-³o|ƳbHELLSCHrIBÖPAUSE¥G(GOň#ƼAZUdBUKY,VEDE?&*gDOBRfYExȃHƇTbDZEL
 fZEMLJaIZHbƯ%$(gDJERVgKAKfLJUDIJbMYSňbNÛgjżOKOJg.Tſ=VfTV.DfUKU,F.TŧEƭOTżE¤ŁSI±.VgģYERU;#'gYtgSPǫRY
 |HaYU,§YUq5½ŗdYfI;³*^%-BIG?#':%,;$+FIT>7(Iț?.(P#,TɿUTAxI|aLtmts;7+CAUDts$2*1Ĳ<Cy<Cz<Cz<CzhȤLp_Bk%G
 )]%>](9Äį3PƕRpŗ?O3ĻdTpΙ%ʐ.;-2Hpʯ?%;$34K>(@K>(BZ>(@Z>(BnƂdMĭ×a4nƂ/=2Vpoƺ;*3Wĭ©/%7dVǼ:A4ŊH©[$2dŗLã|P
 HgEpÒCH×%N/OpßRu^ɰ+1śĮE>ՠ.ĲJɠ:(+V,ȤSpSWAS?r+Z?$3hɚT#ƼnF:E*?$0%D3VIDĒ>$/;&4GvMĒ?$0>&4Dn%*3Dn/*5EIä<
 $0^93OU©<$/<c4tĒ>$1]R3tE«Ht%-4ĉTHä[$1[&4IAUDĒ?$1<w4APĒ>$/;&4(ULĒ?$0>&4MI«MI$&3NI«NI/04SI«KS/&4O«O]
 %3PI«P^(4RO«R%)4ȞĒ>$0<G4AU«TA?Q4UA«U:)4FI«F/<5H/<3HI:94S;93<?6?b3O?b4ēAzCT-P|þ©<%:/(3Þ|%¥*Am©<%:/(
 3CRYPTOȑM#$u,[%=:3<>e-<%:/(<?`+:%8^2@/(+?%<]==;G,<%:%`4v>f3Sv]f4Ĕ¡ÂI©:%7[0>[%(]0;;(CĚ©<%:/(3AKHMIM
 #|K<-+;%9%K=Hy:K<Hy>2?Hy$8<;(DA/(=^Z4LͰED]'+/%7[,>/G?%GAHt/(=t/(>GeGIĒ[%<:3?DJĒ<%:^]@IMĒ?%;>(8NUBI
 e>(.?%6>(DNGI©<%:/(?Y/(>Y/(?WAU©<%;ĂKAIcMI|RfP<#(xAUROqTAU|RfKH^$(<7(|Ȟa1[·=>¤/]%?^(=?T1$&AŶNIǽȇ.T
 US|ASÝdLiIS/34BOHĹ]©/;%:@2CF9,<?.ʅdDIώ|Ɲm$%8ȚEʏR,1ȶjsõ,ĶMyPH>Ǣ+ʏRhGEyGĦĲedBα;#(ϋAbHbHIυb@2D27,YN[#
 (D,AE]#(30hTIFmAGH|*YAcYAB,YABH,YAG:#'HH,BERBÖACADEMY|YAJ,:#(øYɝ;#']#(^#'EY,YşYǖTUArG|YAK:$'H>&'])
 6H>&-$&'<&(A;'(](.]$'Q;$,ƥYgYAZH,AHAGGA]3'Z:'+$$)Yn,Yv,Ye%%-GNdYeGcY¹ɡk,YkR%8(>&.H,AYER]#)YAS:#';#
 (/$'lYt[#'C/$(lYAV,YAW,YAY<0',TAɴzǂ>/'?$'Z,YbYO$E'6F,1Ȣ*(BInIZƤłÐ%('7F,ʜ|ǊERhEΡ=AcMOaROaSOAƔaBOaTO
 aCOaNOĝOaΪOaZOaDOaDDOaJOaǡA±OaP;#(OaGGW;#(gGGŸGGW]Y(A0,SSaSSùſSAaSSEbSSbSSO/&(8,CCaCCU,CCI$$'aCCEb
 CCbCC/&(B0,ZZaZZȃZI$$'aZZEbZZbZZ/&)8,CƐCCHU;#'I:$(;$(^)(H;#(]&(C0,QYaQYU,QYI$$'aQYEbQYbQY/&)8,KYaK
 YñYI$$'aKYEbKYbK/&)D0,XYaXYU,XYI$$'aXYEbXYbX/&*8,GYaGYU,GYI$$'aGYEbGYbG/&)E0ȩə|*BEdVbGHbDΏZbKaάfPb
 ¢EqTbHaTSɖbÈ¤ƐFITaES-TbaIE<ȓ),MjOɕ|UK[c)U,IOTIFI¡aňTz?ȇ/?%-<$*ho|ƳsŘxITU%b,ERcʇ<%7h):%0ʋlo;%9)ʇ;(=
 $&AɧǪPO(<0/1ʇ>%8hǐTReSȰ>%+):%,:04<%;ɧı)ɧOMISS;)3?%=EDITyȐCyjIqΆOqFyK¡?$/³<%6HYPODIAxOLbǐOBE=qƌ|eCy
 aUP:$0ǐoɟƳb_OBLIQUsǭ,ÓǪROBĸPnM|BReěǭpDIAErSIqƾEpRu¬)=W[5(PH!SE%@0>%;%*);ս2dʍh)őpQUƠ,o?%<ƽ)õ^,,1o[$
 0hđ%'K)SΊ|U]70/%8)_ʙ/%8ƗÊjE><(ʨè[$*ÊƗ$&0ċ¡µ?(4FIVs¶²³ƝŒįRu|Ū,ɲł|Ä¶×ĩɧķ1ŵhĮɽƱȥp)GUkDco%$)hĮ^&)?Ӷ-ƫ&
 ,·-EM|Ō,ÆE/$,xiOɕ#|ĶŒÅ|¶qη|ȁ^Ŗ)ULÚ_ǭ,³ĩ_=W-:%+-9|ʧŌp)UPǠ,_SUSPiS$',ÓßKAVYɓ½%$)Āh[%-c%p+h_xŠ^1,ǐɼqƘ
 %B*ŚIEVn|ĩΆUS²ʨS|EzVt^$+CyNĥ|]ś1ď|PtTYpoĔBkd):$+hTIRjIe&>ɚ,ET<0-ǎ1Ɲ0)ɦTƕo^%?](<_žo>&E>a-)ɎISco?$/h
 đ;'N[Ð2@2E80,CJK|!DǬrPEtcCLIFFΔ|ɏ·]l)cǥ,Ŏ,ƚLbKNIFE<&,cDIVmèSEn,§jb§TWfLvE%+3µcSNAKbÆøSNĳ/+.HEk;$/Ɗ
 ,!P<5'9B±OKbSāɐ,DEAÎMOũ,CIVILIe,WA¿%).FIRbPAW?$.ȞPL$ġ)ŊTrsTRUNK,CƃDOG,JADbBOLTËC=ÎEYbȇ.?1/BvBOfSIL
 K,C-$+.>$(NET[:9MEÉÂƋRv,EWbÞ,BRœ<+.MEAlMyTk,G!SS$J4TIG¢C=ĉqWES/1/%01Eb:$.Ɖ,Ɖ>32PEECHdÂLLcʚ^%1CkT<)
 /WnK,WnK]-/ITY]'1GÞ,Ň:1;ŇdGtEcMĴ?&.RŐBLUE>*1TeN¡zAũdzşȿ,FLYcEA<E3;-2EAlĎ[*1HySbBjbGHOS$:2ȒdBIRD,Sn
 Tc%;/HEtdYEL=Wc$(1R%Y';.0Vi,C>$3/&0ğOÎC?$4;&1D!Gj,C[$6TURTz/'1[$*C[$6@2F¼KeGXI^«,jEcǆķʕΔ,ė,TWfLID,
 ȲzGqiĊÃ,~|Ŏ,Că,#E]®*Ą/%(KNIFbPOW¢WR¹SPOj,o|;&,HIDu|iȔURbɺ>³3CLIFF,P.VtbAGŐMOUÎ$(-EkÎSCHOLk,GOdS=W^
 U(Viu,BIG,WOMe±ILD,ROOF,měú,LvbCyPSbSòUlʪ,.V¢WyK,jESELF/F'Be,DRY,ÙÆøǐ:3)àx.Db·ţSƔOlɛ$Â(lB.xLbxƋHEk
 lHnBER$*'y,Ɗ,/ř*^@(C.PlDIPP¢AXbıNOlSāSåɐ,TrbLŠ,Sġ<Æ*WEAPj,DO|NOlȸkbFÌCLe,xEv,WAĊFIRbC(W,F?v)_X,%Ç3
 SL#bFeG%È,òFĴ^È)MELj,ƿbSWEElLIFbUSbFIELD]Ë2S#KNESqǐTilɳbSKI?T'S/Ï+Ek,Ȗ,xjbȇ.lTRŠ,GRŐCAVbxeD,$Ò*R#E
 <Ò)Jk,NET]Î*FE$8)Þ,eD,PLƃEk$Ð),%Ï)mISĊ/R(kRƇ$Ñ+ͳOPPOSbBOt:E(PI;<(=%Ô)q?Ò)mSEClB=OD,WnK>j-/Õ0»bƉ,<Ð
 *VnzY,BEe,PIG,BADG¢<Ò)RöRāF[Z)DY,CklȺĊMyNu$-(,CIĕWmbDIxuUIÉVIL(Gb<Ò,,GtbMĴ,S(VbÙŗ¡;Ã($Ñ-WROÕĘbL;A*
 >Ñ2zEK,SĴ,<Ò1;Ï,F!GRel$Ï.TnL,HĹ,FɫlSAC.F#ȐWmbCAULDRj]Ò*Ȓ,>Ñ-DE¢WH^+)MP,:Ñ*MILzl°,EMBROǫRY,/Ò(ƩOD,D
 RÚ!lNOSbEVi,;Î);Ë1FLUTb@2FF0hɬ#|DE$z(ìʐ|)TO|od?Ş(ğ¦?%+ÄeD|o,>&(:%1¦%ŷ)URRĴ,[#+|Fȋ¬5ʝŉŤÖŉ6o,5čûdă(I
 D,@E0001hLeGUAGsɈ]$(20,ɈȘ1ǎμ&,Α,AͿb)ʙ>$1ȕǤ,ψǑωʆų?%.νʟ,1)ɦlʗqo:&3ΐCilßǆŴE^$+Ů;2_ǒY^.,ȁ,o$&2į0CeCEL%
 `+100,ι-17,+EFhNUL,@0,NƖ,SOHw,xkTËĎucTEXl@2hxX,Ǐ[$)3,E?$.ReS>Ȟ*,@4,EOliQ,@5,iQUIRY,Š,@6,ŠNOWzDGbAz
 Rl@7,Bŋŏȭb@8,Bq?©-ƚULè@9,Ŝ/%3T<#'ƚ,Ǐǆ@aEOL,@aLF,@aȳFEö@aNEW;&,NL,í?*0B,ð$%3lFF,@C,î%*)Ck.AGsrǠ,@D,
 CR,LƄu-SHIFT|jb@b%$)ĳ%$(O:&0?u*@F;&*m$$(gDtA|LmK|ESȨEw0,DLbDC1w1,DEV#sǴROL|jbDC2w2;%3TWfDC3w3;%3Æb
 DC4w4>%3µ,NAKw5,ʂs:M/SYNw6?#'CHRjū|IDz%U7|BLƄw7,ETB,Cew8,:d),Ǐów9,EĤŘwa[ɪ,bESCwB,/<*FILsłwC,FSwC,m
 î÷ł|µ[ҿ)]'0D,GSwD]'9[=)c·wEhrCyD^(0bRS>(:jEwF,ƨT|ł?$)qSP,@7F,ƍ?#*zTbPø@80?#'Duʐ,êOCTET|PrSEl@81,HÏ
 BPH,@82,BrAK|ÝMITT¡ǌbNB>%'3,NO|]%(^$)m:,'4,ƈ,Nŋ@85,NƢ|ǆSSa@86,xkTǛ^®*¡AraiD]$5@87,ESA]¢8|^2)8,Ŝ?%8
 TS?(8pJUxIF#è@89,Ŝ$'GTJ,í^-5að<%8TqƮȐȳ~,@8BcFyWkD%$'hPLD>&1ŏ[%*CcUP?#'hČ^â,ƈ,@8D,1%·.8DhRgȈ^©);^(8
 E]$*-]$(-2?$)S2^&0$c*@8F%'13?$)S3,DCq@90:¦3xRu<ƚ*sUSE/d)91,1USE-1^#'hPU1/&/$1)92/&)2^#'hPU2,ȟ]§+T|
 xtb@93,xS[¦*ʐ,@94,CěMãAGsθ@95,MW,SPa@9<_->ɦ)<],96còT:_-hiD?&67?&,[$.hEPaSOq@98$,,>;+SGC,@99,Ȉɕ#ʐ|I
 ]?'DUC¢SCg@9aȈ/&8/D,EQUiCE<%/@9B,Cſl@9C,xRu|¿Mmty,OÝtu|SYxEM|ŵND,@9D,OSC,PM,@9E[H)CY|<A)bAP]4'F,AP
 PL#÷òG!$)-NBSP,@AD¤YwA2,ȤG^Ҍ+>$0@34FhCGJ,@61C,nM,@709,SY.AC|Řík|ȹ|SKEW¡ŉ@CDbKeNADA|*Lǅ@E9D,(O|*FO|
 Fj$%'FdFå@EA3cRO[#'5,Lf@FD0hTIƲe|ôBKA-ŢOG|GI|MGO|RGYew1EC,Hʞ|JjGSEjG|YESűƷc<$,ͷ$$(:%+,?'-ħKHw80BhF
 VS1,+2,MVqFVS4,@200B,ZWSP,ZWNJ,ZWJ,LRM,RLM<%'2aLRbRLbPDF,LRfRLfN$H)205F,MMSP,WJ/$'66,LRgRLgFSgPDg@
 2118,WEIERx!SS|ELLIPT#|FUNǓ,@2448,M#R|j|US¥1Ō¥@2B7A:Ջ/ŕE?Խ6_ɂE$)(C,o$)]A015,YI|ȝI¿Ƥ@AA6bMεKHvTI|ǅ@
 FE00,;F(F%$'18,PrSiT÷îƻŒo|ÑLiT#ɣʋT%)'FF,BOM]#+YTsyDERÐ^$*ZW;J'w22D4,CUNEIî&|NU11|TiUĬ;$(BURÊBURw6E
 56hŚEFAIDRmƼHdNGw6E76<v);%4B001hHiTAIGeA|*E-1wD0C5,BYZeTmsΧFǡ!|SKLIRjļȋA|VASIS;ū,S]ũ*"

end Wirework.Text.CharName
