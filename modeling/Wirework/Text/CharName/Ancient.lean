/-!
# The names of characters of ancient scripts
-/

namespace Wirework.Text.CharName

def ancient : String := "
 @10ɞík|B|ȝB008|AdB038|bB028|gB061|fB010|Ȇ001|DaB045|DE;$'7ē[%'4|DfB051|DU?#'7|J>&(6|Jb?-(D,B036|JO
 ?*'5|JȆ077|K<&(4|KE%%'7|KI%%'0|KfB081|KU?#'0Ć:,'3|ME]%'3|M[-(5|MO>2'3|M;1(6|NA;$'4|NE%-'0|NI^/'2|N
 ;1(5|N>&(3|PA<)'2|P>&(9|P/*(1|P>&(0|PU;$'6|Q>&(8|Q$<(1|QI:''2|QOw0028>3'0|R[-(7|r?('3|.:,'2|R;1(6|
 RU^''1|SA%%'9|SE;9'1|S[-(2|S[-(8|S]?(9|T>&(4|T;1(7|T/*(5|T^?(9|T>&(4|W;1(5|W/*(0|WI?#'2|W;1)3C>+'7
 |Z<&(4|ZE$%)F>0'0|Z:1(5|A2]''3|A3%D'5|A<H(1|D]*(90|DWO$&'8|NW%8(9|PU2</'2|PT<G(6|R:)(33|R;)(68|RO/
 &(6|T;%(87|T:*)1|T>1*50cĂB018,+1dB02?)(4;-'7;#'9<8'6])'3,+1$-'9/*'2%$)86;#'9w0080cǫOȑ|B100|MedB10$
 <'ȲB104|DEER]#'5|EQUID^#(FĆr^#(M|xnLIO/'(6F|EWE]#(M|Rv]#'7F|Â-GOt:$(M|/$.8F|SOW]#(M|BOA?,(9F|C]$)9
 M|BƖ,B120|WHEt^#'1|BkzY$$'2|OLƇ^#'3|SP#^#(5|CYÝUScMj>7+2^o'POdB128|KeAKO>:030|OILdB131|WmbB132%)03
 3|ArPA:&(5|ME.$)040|BRjZEdB141|GOL^>'42;#'5|WOOL]#'6,B150;#'1|Ɖ]#'2,+[,156|TU]S'?+.57]P)159|C=ÎB16
 0;N(162|Gkǃ%$'3|kMǧ$$'4,+8,B173|Mj?'(74;#'6|TrE]#'7$&)89[))91|HELMElB220|ʚx$4(225|BtHTUB,B230|SPEk
 ^#'1ÿ^#'2;#'3|Sʢ^#'4;#'6,B24:L(EzDļA.OT]$'1%$/2%$+|FRvE?$'3[')^#'5,+1>=/247ēPTE>=.24<l*251,+?/'54|
 DkT]#'5,+4,VãEL;A'5,4B20%@'3^6'1%:(226,+;$'$I'305w01¼AEGEe|ɲł|ídķ1ɯÐ?')7,ŅΞλ<#(ς[')ĕÃY$((ĕǨ,·$$,Æ:
 %-µ%$-IV:%-Å|Ǯ]+)/$,Ã/$,NI<,.jsƪ?-(%$-Æ<%.Ǳƪ^-*ƪ$.)ƪ%.*:$-Ã:$-NI/-/ɇ%?*;$,^?*[./:$/>A)^.0:$./C+:/2
 Y;/1;$.w0137,1WÃ|ǵsƨTcΌŘƨTΔ:$,Ɇ/$-µTH:$,1DRY|ʫs;)1LIQUID>%:ʫs[,1c],0hǍACϐHj#|tT#|ξ,D!CHMAdFƇ;?)]V1
 4ƪDd?%(;O3niTqTi$$+:))/$,Ǩ$&.V]$4?[/[&0^$64xA¿SdTi|%$)]-*/$,Ǩ$&.V]$3]-0]$-ɇ[+1^&9MNAScHE!EɶjsPzTHR
 j,ĉSPĦjbǌMIj:$+EPIDAUre|·]&*%$*CYRiA#|ŀ<I*S<'.%%1TROEZiĦFƇdɺ4Ƿîc<..ɺMãE/$+;..id]r)c$+./:(?*;$&->))
 :$,djE:·9c[5.<H/[5,%%2/+)^$4CkYx$%4NAX](=?P/d^Z0cƍPH#:((/N)xRt/6,[$)1jsõ&<<41ŀɅȜɹȜYEk&,>f)&<w+&,OB
 OL&,ŀ/$'/*/<$/µ;$0IV]%0ǂrTEȜKYAǡS|ǵE&,ň!&,ȎKIA&,XES[',kƚE&,kOU!&,ȑ$3+TRYBLIj%+.Ⱦ&,ʩ&,SmUSOIȓmDIǓ&h
 NOMISMA&w0190,ȋe|SƢeȜ1UNCIA&»M/$/ƢU(&,DIȏIA|]$0SILIQU$&+iA.UȜQUI:$.»S¿T;$,DUPjD:$,AȜąU.n&hASCIAæw0
 1A0,ǍĂTAU|RHOw01D0,ƂIxOSēSC&|PEDEx.edČM¡Ď,TtTOO/$+ȨTIVɖILD,WOȲ;ı*GAUNTzlTIkaȖ,ɛǚELD,CLUB,MeACzqMtT
 Ƅ,SAW,LID,BOOMERĸCkPiTRY|PLebDOLIÚǔB,SLu,COLUMN,BEEHƇ¤üƉ,HIDbBƖS|z?)'lRv,EAGLbDOVbTUNNY,BEbPLesTrb
 VmbPAPYRUqROȟTbLILY,OX|ŏ,FLUTbG!Ċx!m¢§AXbźY|BeD,ŶOB<P'sɉEw02ǙLYCĦ*AcbB,BH,G,D,gW,Z,ÎJ,K,QΝ,MM,NN,ż
 ,KK,R,qlTle,i,H,Xw02A0hCk$+1P2,DȼUUU,R,LD,A2,Q,B,M,fD2,T¤¤2,qC-18,U/,'X,N,TT2,P,SqgE<('ñ,K2,ND,UU,
 G,G2,Slx2,ÕIgC-39,TT[&'2,RR,MB,MB?Ů(LD2,E2/%'3w02E0hɚT#|EPAC:ĩ-SÐcέȱd>ŉx>ŉzw03¼Þ|ITnȴAdBbKbDbbVbZb
 HbTHbgKaάEÉfPE¤bKU,¢EqTbǟKqPHbKHbEF,ERS±bII$L'ãcɩn|ɏ]B(Ti:>)w032Dc*YEdNyũN|TSbSOU%$,hGOTHȴAHSAcBĹK
 e,GIBaƱqAIHVUqQĹTHRaIUJaHAGL$J'UÎEIqKUSMa(GUqMeƅAUTHqJ¢ɃqP[(*:K+!IDaSAUŰTEIWqWmJaFAIHU,IGGWqHWĹ,OT
 Hn/F55/F*ÝMȴedBÌGAgDOgbZHOgD<#(ZtaDZITagKOKbzgMiObNiObVOOgPEEgrgSIgTAgU,CǌYƔOI¤C?#(YRY,YEƭfOO^I'Ha
 TSIȅ¢Y:#)gYAlIbɡaIAȩ/484D:2*/0)^.'w03ǙUGA.TȴnPAcƲaGvLaǈƍTaHfWfZE^#(ŁElYOD,KAFΓLvDaMĨD]B(āZùvKaŐPùA
 DbQOPa!ģTHeNaGHŐTfgùSUw039F,1ʢʏR;H,SIe&|AdgñA>h'GaGU,XaCaJaJgŁŨaDgDĿHaPaBƶƅU,ɑgMťaVaVgRaƭLaSǹģSSī;
 0'C8,AURvAZDAA^#.-2%$.HaXÈAYtHIYaDAHYAAœ]#-ĞɜaBUUMĥc%80Ņ$¾,<ƹ/;b.4¼DESErTƼàg4baAH?X(dÙ^$3åƃWťEbH,P
 EbBEbTEbDEbïbJEbKåGAY%`'VEbęĉbEqZEbEÉZHEb¢άEÕOgEW,1ř;1g;1zhÈVĦ*PEEPcTOlK#K,FEbTǯ,SfSURɖURěYEaHUÕBI
 B,DEøGAG,VƃĉY,ZOfʫbJUDGbWObHA-HaLǩ,MIMbIF,EGG,AÉADfj,[Ș(OUlÁROk?p(EAlAGb#bâOǖOOZbOŰAWbkby,Ĺ,ERR,kR
 åEk,Ie,YEWhOSMeYA|*þcBaTaJaX:¥+ŋRaSAǚm,DHaCAYN,GƶQAşKAş(e,MIm,NUāŹ,HaYaabgfU,AaEbOOw04AƒʈEw04B0hOS
 AGEƼAdAgŐÁBRaƐEHƐbEm,ơYA>ñ*HKaKYƑMaNafOm,PaEHP>9*aTaEHŁSaEHͲDHaȄaǈGHǹZHAw04D8>g)[0][0z5¼ELǵ;Ĵ0BbCɖ
 bDbNDbDHbEgbFbGbGJbHbgJbKbLbLLbMbNbƅJbfPbQbRbRr»¤bTbTHbȅbXbY,ZΏG:#(vMaKHEw0530hCAUCASĦnBeĦ*nTdBElG
 IM,DAlEB,ZkL,EYN,ZHŰTAqƐYOWD?8(IRB,ģLe,mYaX^&'DYe,Ck,JHOX,Kk,LYIlHEYlQåAy±OY±gCYåMƥQk,NOWC,DZYAY¤ǖ
 J>j'j,TYåFv,DZAY±AlPi>7'YqRt»YK,VEYZ,TIWR¤ǦIWN<+'W^p)YAYD,P>%'KIWw056FcCITƤ0VITHKUQI<h6BBb$L-?K3^P
 )7C,ơHagIJE?L(ƑL(?L);L.aR]G)8C?L8>%)94:M'$$*7;h)?0SA3?0WB3?0>BB?0,6¼ík|A&|AB001,+AdAB013,<#'6,+1[#
 '20[#+1F>#)M>#(2<#)F>#)[$)3<#)%$)4<#(6,+2,A028B:$(9,+%((34<#(7,+[#(44,+7[#'53,+8[#'65[&*69>.*73[#+
 6,+6[#'8/&)100-10$''118<#'20,A120B$$(2]')131A>#)B,A131C%$'64<#'7]%(80<#(]((91,A301;0(309A<#(B<#(C,
 A310]-(313A<#(B<#(:%(4,+39,A400-VAS[#'1[#+2[#+3[#+4[#+5[#+6[#+7[#+8[#+9[#*10[#+1[#+2[#+3[#+4[#+5[#
 +6[#+7[#+%+*5$8'5?#'8?#)15[>(520?#*3,+9,A534:H(545;#'7,+aA55:%'63,+3?#'8,+1?%'91:()94^=(598,A600[O
 (606;#']&'0,A626;((634;#'7$((640;#'2:')48]$)51,+Dw07[%'701|A>#'2|B>#'3|D>#'4|E>#'5|F>#'6|H>#'7|J>#
 '8|K>#'9|L>#(-2|L2]#)3|L3]#)4|L4]#)6|L6,A710|W>#'1|X>#'2|Y>#'3|ŬA^#'4|ABB[#'5|?#)7|D>/'26|EYY%''32
 |JEw0760,A8^:'7w07ǙȢśAAcɻɸȹdõ$%4c§AEd[)+B,Bĭ<.)7,DZȪ,5½Ȍ,½ǒό,Dpǀ5ė,ė£ŗd³bƏ³çbFiGȪ,RvS|Ɖ,]2+G,Gĭ^$-
 ǻHĻ$&,H,HiGǻɗJĻ£ė,LSȪ,LZ^#-pǕT%+,[$/LpȌ£ǕlzZH,4%&6ɱY,5$*,dO;58ObƏŬaQ×RpàzG,8eD<,4R$I/Ȓė]R-R,TCȪǼ,T
 S$S@dTES%R-T|/&7Vpo<[-B2?6,Ycǰƕ³$&<BI(BȐCL#K,ȷ%$,(¿/$,nVEOLk:$*%2,;$)$48§SǼw08¼CYP.OT|ȝAc%Ŝ+JA<&)8
 ,JO]#)aKaKbKgKfKU,LaLbLgLfLU,οMU,ƅbNgNfNżaPbPgPfPU,RaRbRgRfRùaϓU,ŁbTgTfTȄașgW>/)37,XaXE%$)C,ZA]#)F
 ,ZOhIMÝȐkvAȴAzPHdBęGIMŋDnęHbŹ,ZAYm,HęTęYODH,K:S'(ŚH,MĨNāSvEKH,/'(PbSɝbQOPH,RĚΓTAWw0857cƫ&,Ņ;Ȱ2]Ƽ/Ǩ
 ,/ʭ0ɇhPnMYRiE/70c/7bÀNUN%8P1ʄFzURj,o$%3;:/c^Ɛ5:;/hNABtAEe|*À;8*>#)ÀBę^95ÀHE[:;ÀYOD[;*ÀKAP[<*À(Ś^=,
 ÀMEM]>UÀSHm$U1A7,1;<>1CRUCIî|Ņ|µ,$$+Ƈc>W9w08E0hHtRe>UC-rS$V//kQ$92w08F4/81FB/81:P3ǨhPHOi#I[3/FcBEl
 GvL,ƍT[2)ȃAI?2';Ȫ,ΗD%2-EMK,A$H,bQOF,RO[d-U^0.>A=:H,w091?ȫ+łhLYDI^Ʊ1$ʤ(bV,gY,KΝ,fR,SqlU,F,Q,S;ʣ-LY,
 NN,Cw093F,1ɸȣw09ǙMEROIT#|HIEROGLYPHȴAdbgfYaWǘBAĞPaMaƅAĞNbNEĞRa!ĞLaKơHaSaSAĞSbKaQaŁAĞTbTEĞTfDAcĂVID
 Jd<#'Ğ1ǳSƇ?/<//.b!]-2ȗSA;.1E<-)w09BCcȶEL/Ώ)ɴFTHSdjsõcΨ|RMTdIMNc$O-d<ίxw09D2/ʯJ]ήz]ήz]ήz]ήzǨ[;0]$3:
 G2/=1^$3^H1?20]$3>J2[32$%5NI$36cȶjE^f+d·%h-Ü:$,µ/$.IV<%.Å%$.>n1Ã:$,$0($,.[&.hKHkOSHTHI|*a1ØIdȅOCn#
 |Rw0A05,bO^#)CcʭÐÍ_Ru|ŷeUSVkaɁa1*KAcǈGaGHAw0A15,CaƐJ<$*9,NYaTŁTHaDDaDDHaNNaŁHǗ>$(aPƵǘBHaMaYaRƑV[ʨ-
 SaZīKKaTTTH<#(aV^.*38ÍBkǽCAUDaŝ>&(F,1Ȁaɘ$ă8ȱc/ĵC1$U0õw0A50,Ɓ¶cʔōCrSą|ĜMeGnv,=TUqή%$)íSw0A60hÞ|SOUƙ
 A!BĦ*Hb4$Ĉ*HęMEM:Ć)ŹΓrS]ī*T?$'t]Č)NāKHęSɝE^Č+Fbþ?č(DHɝE]İ1GH:%'TęZ/&)n^Ĕ,ŽW,THę3?Õ.4;τ*ɩ#|Ή1Ny/67H
 :6(,HA^5'Ĩȯ^5(ESĞRÔBÔTEH<$'1,Kşņ,Ɵ[5($%'3,FEH<5)ŐDøGEĨDn,GHŐTÁZŐTHn,YÔĉ?$'/42/ã-w0AC0hMe#HAE^İ9BH<
 ı-GH[Ť5ÍUD,*ZAYmcZH?#(J<#)H%Ũ<X;#'KH%Ķ.DHvE^E(]ž=A:Ŏ+F<ĸ0X;#'QH<ū1S$Ŭ-ABBrVI÷ȣĀd<s-E[ļN1Ɓxkc>ű+_DO
 %ǁ)I?p):$4lͱqȳʛw0B¼AVEx$H.cAaAfAAfe,Ae,AbAEbbEbfOfgIgĠñbXbXYbXVbGbGGbGHbCbJbTbT[ɬ-TTE<A*BbBHbNGbNG
 YbNGVbNbNYbNNbMbHMbYYbYbVbRbLbSbZE¤ΏSHYE:E'bHEw0B39[E6hTmY|ƗÊj:?)ʨèú>&FůE>&F1]$*ÊƗ%&0ŀRu:).Ru/&0]$
 +Ê<'+<)0hmSC.Pìn|ƮHIe<ǇI<ǇzB58$ņ?[ǆH1PAH(VI%5J-AYm-RĚ$6H-[3'<6.$6,%517%5ehPSnTÖ]5d;5c99cƫÐ×[$0µ^a(
 pď,5¶w0BA9<;Vw0C<φ+TURKȴyKHj|AdYiISEI|a4AEd/%*g%%+g4$%-f4OE?'-Ob>)+B,>),B]$,E^$.E$%-G^$-G^&-G^&.$%
 -D^$-D]$,ö4EZ:/-EZ;%,Y:'-Y:'-Y:+.$%.K$%.K,?7+$%.O$%-n^$,n]$,ŋ4ELlĨe,Ai>A.i<&+iT<(,iT$%-C$%.C$%-Y$%
 .Y,4eGd>%,]=.i^=,Ƌ4Ï#,EC<<.C;2,Q^',ƥ%O+Q/O-Q/:,Q%:-]$,k]$,k]$,¢4AqAEqÛ[--Û/&+Ě>5-$%-A[;-t/*-T^6.T%
 0,l4BÛw0C8ƒHľA.eƼa4AaEB,vB^:'i>;'qöeD,bȔsbE/Ѕ)G,EGY,ÔgIgEJ,EK,ǖUNK,ŋELY>Γ,Y,fOfNIKOLSBURG|ObRUDIǃA
 >j(EbƋEMP,¢Ù¢EqESZ,ElilEĕEěĠU^)/U^)/UbEV,EZ,EZqiTͰEȓUSw0CC0cř[9k[9z[9zFAcŅ>Ы5]Ö@HeIFI|ROHuYA]л/aPa
 ŁTaJaCīǈFǗDDaRaRRaZ]Β,KaG:Έ.WaKmNA|WaY$$+YaNGĝaVAcɀ<Ͻ+bOcôSAKm,ôNA|KHjNƴHkBAHAYdTAHnaTeaTASSIw0D30
 cȧd?ήSE60hRUMI|ɘ:ժP;Ɲ1<ѫw/Ȇz$ƪ7dǣ,Ʌc^ӳ-w0EǙYEZIDI|*ELIFcBbPbP?Ѯ*SbCIM±;#(<#'HHaXaDn,Zn?W(HǹJaSmΓSø
 DøTaZE]Σ(XH<#'FaVAd>ԛ3QşKşKHşGşLv,MI<Ķ)ÚŹ,ƃEW,HåYOlETw0EAB,1ŶHvZAÐcMADDA²1ǭƤ:('B0,*Lvp¶¬*YOTpʉĀw0F
 0^ǀ,GD%ō5%ʢ/BęÀ%Ī.HbÀ;ŏ1^Ŏ??ʜ.5½Œŗd[ő/Ƿ%œ1À$$(/)9RĚ%ķ)DAzT[Ŗ.ÀTAW%(7^ɔC$ɓ7Ǩc/d5Ɔ]/.w0F30h$E(]ʥ?%B1
 %ŮU^:,::.ęzÉ1ρ|]%(Ŷŝ2ɷ;Z-Ɨ¬ǳVEĀdŷė¬ė¦à;$-$2(¦ɉE¦/ʥG1Ɓŀőq5[k+ScÇšŀÇS|<&-Ŋ]&2w0F7[m*UYGHUR[ű<-Hę[J-À
 :KG]J0[b-^I(cŶ$F-4ʍd[F25ŷƁBkd·:<)Ɨ>ŵ-w0FB0hCHO!SM/`5ú%$*>Ƭ<ǒ¡^bX<91;Q2[ƀLFE0hELYMA#]q7%ƽz^33Ɔ/+(-:
 *'w1ɞB!HMI&|CΜU/ɨ6JIHκaUPβ1:ǻ/<Ǹ,%ɴ.dϒcbAgfAña<ɮ.NGA/ɮ.JHA^ɭvīǅÞ|TvIL|Lǅ4RRaNNNa1ØAAdBHtTIòLU|[6:4
 ϒd[6,[ɰ+$ɢ6?ɩ5_ķLm:ɩ1<ɨ)w1052%^+Ξ%ĦV:Ǭ@Ǒȉ[E-Ȁa*%%-Ùb5O>G/^%66f1*>M.(w107F,Ņ|ǊERhKAITH]gF?e=]caDH;d
 *R[de%b5]16ÍȀƴNUKTa$ȿ/&,EɩA<Κ3&,ƫ²_[$/?g7Ø]m,w10CD:+/Āw10D0hSO!|SOMPiG|*SAHdTÁBÁCÁDÁGÁMÁNGÁLÁNÁVÁP
 ÁYÁRÁHÁKÁJÁNYÁÁEÔIH,UH,OH,E/)';.)F]Żb11¼CHAKMA/ZPAcgU,bKAaƟaGA$Y(%Y(aCA:Y(aJA<Y(ĝA?Y([Y)]Y(;Y)%Y(a
 TAa/%)Aa$%)AaPAaƂaBA^Y(aMAaYYAaYAa!a(aWAaSAaHA;Z1:Z:Og1O²AU²Ȁ<+(;+'w1136,Ǒ$[CƝ*LHAa[l2Eg1*V]0*50hM
 AHAJeI|*;G,O;¤0^ãn]¢/īRRa1%x:<u6ƆSH.w11ǙÈ!D[]F[ük[üzL:¼G%ùA%¾9cɰ%Ė>OM/Z5%G7ł,SeDHI²[K,<]+MΦ²Ƣ!|Ùɀ²
 SUT!²ØPRĥTHvt!|EĺÓ;N/ǑEKvĺͻ,ĎžǴmU;^:Ǻw11E1hSmHA(|ȗέȱd$Ĕrw12¼KHOJKI|<i2$Ā:<g9JAw1213%hID>h8^h6V$Ł-/
 h<%f3:£+cȀa[])ƀDa1]d6ɲł:ĀD/i5ĺSUKUNw12ǙMULT^Ã6%A-[&)8,GH^#*?A78F?A6%ÆI]()9F^A=R>ȋ);Ü1w12B>S(UDAWAD
 I|;À8;TP/Ĳ>aRR[55<TOH]5*<Q3;ĳL<T'ƴȀ<?)Fʠw13¼GReŽ&|ί[1,ǽ]·//ã3]))5]ãGL^&)FcEbAIw1313,O[är/0)2;å:?%)
 32$æ)/$*5?æ3%%*Bȩ%:(¦:?+?H-cɰ$ìLw1347d;;-4B;;*1[O2350,OM]#)7,AU|ʭÐ^$)DĺČTa*VED#]L,d_<$+c$0,RdLL,1]
 Š6L,4L^J)66ȩ;:+%ŕJw1370c*AdKaNaVgPAw14¼NEWA|$ękN:Ĳ7ĝH%XLNH]W6MH/X+RHƑLHaW$ěx[tB;])ɰaÀ;&,1ĤȊDHI$Ğ7ĩ
 GAP|ʛ:Ú6Ǒ_ĩʀHÞER;b,45D,mSERì&?Ĩ/]c8ƴ$ĳ-ƴUPβ%+'ǙTIRHUTA|eJI[Ŏk>ȁz:VdÙ<3*Ù[W)/ŨFȀ[W41GVeG[R5<²*4Dʠw1
 5Ǚͻ|%Hv%Hz<ÑQ5B8dbAg]FYͻ<ĳ8ł|¶cĜ1rPETI>Ş02,ǏTƢÐ;ķ0pT.ȷ£UͰ¡yNAǃq6ǐ^Ȯ+q4!YS£;%47_>$-Ʃ<$/d_ƛ5½!YSd½_]
 ,.](4QUADRU[$0»PT?$2ÇS£!Yq6ŀiȔUrqµ;$/1*ÆE-ŞsǷg*·?%74IIcǷU;U0%%/4UUw16¼MODI?iz?izLL/µS<ŷ=[h2kDHA>l)
 >h7[ų;HUVAw165ʠw1660hMjGOLĦBIRGAp[j*l1Ɍ>%(a_[&7Ʃ;%:[$._;%,Ɍ^'84_[/-Ó/'(d<*81SWIRL%&+<*1;'9Į$()?2=w
 16ǙTAK.|$ɫX;bz>ȑ4:ĉ2Ɂa>ɬ_*ȗKH]`6w16C^_b7¼AHOM|/ӭ/$@*?<)ǷT></MaJaƐTH^<+Sĝī:A,GaǷ;H*BH<G)ǷBAw171D,1φ
 La4!^Ȯ)u|R$ɕ4<S3W,fAgvÍK>Ҕ+173ʠ/Ο7Í§ƫcƫ,RU(g1ĂVg*CAc<_7?Ɠ,8¼DOG!;if]ÍzRR]ÍL;ÍN]i)1/h88A0hWkeG|CITI
 ƼNGAa4aWgɡaYfII/>)fĸGaKfiY,YUJ,UC,iN,ODD,TTbNUÕDaAlv,BżŧIYfHOLfHyR,ʮSSUùIgVIYOcř[.I[.z;ϦJ/Ⱥzw18FFc
 OMhDƇS|AKɃ|*[w4w1909,O[#)C>c?w1915]c*:$*8$dVY:Ď?ǹ2?d14%3337^c($$)Bc:d0dCΜŧneT/Ƚ-PrFIX¡NASn&,ŚȐYaƯ!
 ]$+R<Ö.]Ē0:ƭ/[Ŕ4w1950,>RZ]7)A0hNeDmAGk[ķI%()A^ķS^ķzRR;žP9DA$µNɰ>Ž.Ďž[ʝ=w1A¼ZeABAZk|Ģ*^]1g4UE%ц)E;ç
 *U,³IdʭÐc*ɓ?D::DbͲDZaDZHaZHǹ-]F?KSSAcÀʜ²$Ě4%o/4<ĸ0?q*$ł2%ǻ4cCLUS¿-Ư*Ra:%+À*Ya4[3+cƯĎ²Ȕu>$.ôTÂGdƀ,_
 ƀ,Ň>%)cƯǲz-íD%+5[%;ŘǊERw1A50hSOYOMBO|*>f1Id:U*fOE:U(/g0Lc<U/1*KAc/x>]Um;UN1;ȎE^N<dL>**a1^[2&|G,4K,
 ÕD,N,B,M,RȼÉq-;śAGEMm÷?H1^R.c^R4ČTa1[M,pɐ£SUN£ƘFLvb8>#)7,1¿MmnÐǺw1AB0hCeADσNtƿIK|HIdHIgHfHOfơAA¤.¤
 .<#(O;#(O¤!¤!AcSPbSPgSPfSPAhPAU|Cm|HAU|*Pa4KƑMaDǹV>V)]W)ǈSǘC?T,NƵaRƶƐabgfĠaIaÀP,5K,lM,NȼW,ÕYd.Su|Ŗ
 =Õ5d$Ƀ*ǰ,>&3|Fmn,5Fmn>'8$&*4/+//(.%(*ȏ-zVEL|Tjbǰ|VA.el/&,<.<=W-FnL;54ǰ,;&+/5?>45w1C¼BHAIKSUK;üJ%(*
 >üv:Ȱz%3,3<Ȱ[ɰ;ǫ9ɲł]ģ.>t,C5ʠ]А>]Аz1ǮS|ƨ>Ĵ-C70hMkCHi;ß.1ôƀ,[×3^ĉ5?O-:O0:Ô5W>Ô6/ǚ/Aw1C92,γɓ<.l:,)A9]
 .7[]2>ԡ-?Ö3[Z3w1D0/A(Skv|GjDI;Ŷ@D08$c($$)B]sI<Ōz<ö*J?+(R%ŷ?[А0D3A;5*3C;5-3F,AU^Ÿ4Ɂ?Ƹ+<?)[Ź4rPHa!-K
 A!w1D?űcD60hGUNJA(>G@$')7,EbAI%$)aOfAťaV]@./I)>D,L%J)<E.?J*?I.LL]K)?J0G%I*īRaS$E5:1190:1.93:1)c:`6
 %¼2OMw1DA$AbEE?f(KASk<w-cG<5*:t,:v+C;x*?]2aa1eGKaØId/s*PASȞBĸǏƫw1FB0hLISU|*YHAw1FC0,:Ѳ)ȶjE?ʖ*Ǯ-eD-
 TWiTIę3j;%1Å:%)ÃIęÅTY-µÎFy^$(<É*-SECjDcÜ[',qÜ;(/qjs/..ɋTHǺ,Ti]-+HcÆ%'):*0ɋ$*+FIFTHdǣ,õǺcɹq~SCnu|ĘT
 y|KIIZHÍNELcCEVITU,AAZHAAKKĠZH?#(MUUV$$+KɃNgPt<%+K?$*KAACżev,Pj,VA!AKe,PAkv,KUZHgVELg1WET|CULTIV<ȕ
 .DRY]$5LeȓSnT|Pe&,T!DIìn|CrDIT&cŅ&,1ǳRiT&,A/X'DȓSP%%,TOTn&,mƦSSã?.,xkTu|Fȋ&ĺMUŽ[ŭ-VAKAIYA!%_)FF,Ɓ:
 Ǣ.w2ɞCUNEIî&|AdTIMES|a4BøGe2|TiŧaIGg(Gk|GUNŦUÉSAGcA2,AB/(+Û2,4DUN3<&)Gn;)4:%)IMm:*(B,ÂÉU|ČS|>#+d<&
 'cAB2;++BA(G,4/*-ME$')i,È3,TAK4cøAK?'+ERm2,4SȵA$')Gĥcn,n|/&)n,4DIM2,;%(HaKAD3,KI¤bU%')e,[ԙ)vk;++Âc
 eĬe,Ü>%'q],(NAGA|OPPOSu|e|^$+a5ċEDceSHbAPm,A!D<++KURckKAB,ASn2,ÛdZIDA$:)KAB]#*ɨÛ|TUG2Ê]#':$3P¹5^&+
 ,7ďu|ÛÊ[#/cÛ<-($I'BaBøɜ3,BAHk2,BnĬBnc<H)ĜBA!2,BI>X.Gk^P,cBUĬBU|AB,5UNd[/,B^%(LUGĬ$$(cBÌBUR2,DaƱdKI
 Ȟ5]K*%N)ĆÉ5vk,^/*gGa6>%.GgGIR2,GUD<_(R?%*LU,5KǖLaLU<'.2,5LÚNbPAP/,(?@(SI;[)U2/Y+R2;U)Dv,Dk,DA!3,+1
 ,DgDIB,DIM<V0[[(DmdKASKn|U^<(|Dĥc<#(DUĬDU,<%'<m)IGcDU%t,Ě2<$(2,DUG,DU[6'DUH,Dā/v';p*4<E)DUN4,D]@'E
 ^()]5)ɨsNUNÊNUNcE2d^B0H?#*D;M*MgSn:m)cEDm,EGIR,ŋi,i>H*Ge2,5^a(4ME?O.i,:l,i,:k,ERi,?z)/7(EZi>X-5:J)
 n,7?$'^#)4e/a(/²-6;9)Ha5]#)/^,<D)<u-4KU3]P(n|;*-LgLĠ2,UDcGAd%@)GA/<3D^<+a6$Â*4AB2]w(:%)ƚ,e,AÉÛ%V+n
 ;q)k<$)RaBÌ5%$+4DA$W)M|>V-^P'EL>:+a4[C/?À-]#.k,[h(4['([v)IR$/*SU,>M+L?2(]X*HA$,/HI%&*gH$['^@,ĥ]9*<
 (*AÉKAK/C+KID%J-?C(<&)e,(?Ï/MgNā5]],4PA]Y)k,Â:)*TUR]Ð(D,SUM>u)Ġ$,+%n,GA2cGABA:[.:$'cGAD/&,D|GkÊGkc
 Gnd$%']%=v,Gv,Ge%C(d]É,:g)^,-e2c<E(k3,GÛe,GĚTm[Ò0GI:$+b4U$3/IcGI4Ĭ]#';%.4cGIDIM,?L'>`,IR3?`2:_(?R,
 ?`(LU;%-PAcGISn,Gĥ:.0É?))Bø4^C'>8)cG$20<$(2%6,ǖ5^#)]T,4NāSn|^K*G$3-UD^20^;($U'RĬGUD|LUGncGUL,GU<Ä1
 GÌGUR7,GɃN<#(ÉHA;2*%,)Hn,HI;,,É4Û2$u(DIÉGøKm/^'<¹+HU?g';6,e,4Hn^e+LIÉUDcHUL2,IdAcIB,:G'ĬI/z'BUR?ā.
 IG?E'dDIB,Rgă;='ŢIRÊ]#(UDÊUD:4*ILd^£2cI]-':;,TAK%T.IM$Æ($$+?.-Mm,m,IR,IÉK$ı/A]o+KU3$=.%Ā.I;Ë/GA%į2
 Gk](*È3|<°+[ö,ĥ|[%)k,5[Z14GU%L($=(IM[¬)gKID/Ê*ME%¤-6GgTb4MI[$*NUNUZ,4NE>K(PgRùA$¬*aÂǚD¤ùIG,SUHÌTk,
 :Ò+UMU%Ç+PaUÉZIcKA2;g.KA2cKAB,KAD2,+3ĬKAD5cKAKd?h1cKnd?o-?)-ncKv2,Kv4^X*d(GAB%/*UÊ?$0,ɨ%')|$'CcK;I
 (KI]./4U]b(KI%h)KISn,KIÉ/Ģ)Ĭ%$)cKUĬHI|%o,2|KU|^$5c>V'+1d%ɕ*|îcKU7,KULd$<*āKURd$a+<¾)KœU2,KWU318,La
 >5(]`-5%ö4Gk,Ln,4n]ô*|$Ō,:c)gDk,i$b(k,GU$g+]#'4ơn,]4*]W(/ů/,5?,,LU,4KI[>)U3?5'>%+I<g,^2)Lĥ;b'LUL[b
 -i,4MUÉNbÂ/j*Ú;Ů.<l-[r)7$5(4%<':)*^#(4SÚɈ$ì)TE<.*<*+|%k)aĠ^0+6<ſ,4U2<û,%R'œd<©,(G>Ŵ15/2+/K*4ɨ?Ə-|Â
 c(H?q'L]g-LncLv;$+K$ė-UcLgLŰLIMMU2>>+:a.cL:Ü-n]ƛ)Ě/ĸ,<Ɩ.I|^'-IM>w*1,5[7+[J((/9,/Y)>Ď/NbNùI%&-SIK?=
 *BĿUG/ā*^z-;1'>c'%$,/@*]ŗ-LU3,LUGnĬ$$(?'/Gn%'/H[U(LUMĬLÚ5^Ď1MA;Ó0>p)MA2,MÁMk,MAÉM%v(MbMEqMgMm,MUĬM
 UcMUGd<(*UNŘ,MURGU2,Mœ]D,/ø)ZAĬ<%(5>û0N%ģ.]%(cMœ3[y4g4DI;-+ƅA2,NAGAd<Д+,[[+U>M([=-<&'cN%`(Nv|NUTƠU
 dcNv2,NE$3.UDd?A,N<Ģ-cNI2,NIM?ò54Gk|Č[$.cNmDA^Ă0Û]X/GUD,ME$(3?à*?n-A|e,6AÉ7;(+:u1œcNISAG,NĈU11^('d
 ;r)>2*k,5M$`(n,6$Ō+|/&/Sn,5œ>a*/&+;b,%$(5(?X+<()c<ñ(dAB2>)*[ƻ*5BI]ƕ($8'<ż.D3,LaNbSI(3,U2:Ʋ2Bg6UcPa
 PøPe,P¹P<z(PI>I.AB,BgBU,bgIB,Ġ2;X.PIcPI.G>'+Kn;N';_(^S,$&(cRa!B,R?Ă-G^T.;-,DU^ż(HA^ċ)UR<s'%ū+SnǚD,
 ƚ>/'UB,ÚÌœĬSAG$t*S^û,%ì0SeGA2/Ď.A3;Ȋ3I;Õ+U2,TUR]Ì.cÈ6,ÈB6¤k2,ÂdH]L)Ţs:Ů=5ƚÊƚ;%0cÂG9¤i,/l(<#)2>#)Lv
 ǚD:2.IMcSHIM$4/n,]Ǡ)Dm,%ǧ*]ƭ+%ý)^ê)UG,SncSHmIGǚR[_*%ņ-BURÊBURcSȵAƸĬÓSHUc%+'ƸBÌſ^^(>Ĭ*IG4Ĭ^#'|]&'cS
 IK2[`*SUĬSUcSUD,SUD2>ı*SÚSU;q):$(R9,TAdȕ[9)Hg4M[·,ƚd;C,NIÊNI|DĥÊDĥ/œ-Ɉd$l+[«(?ľ*$Ý*UDc;þ)k,TE;,,I^
 >)cTŰTIR<Ô0ɨ]$'5]R<cT]+*TUK,TUM:['ĬTUR|ZAÊZAcUd[0'U|$I*U|PAÊPA>Z2S$K+SÌU|³ɨ;$-c>o*Dd$T):ƕ/MI[Ɇ49;9
 'd:Ȁ04>',cUDUG,U>_,[t(,4[É+D;s*UcUMBm,UM^&-<ő*4PAcUN$C+UR[°.UR>-+cUR[ȁ4a6Na4n,HaNāU2:Ö.6BIcUR4,URg
 U.3,Ƀ^n.;Å*ĜDUN<ż9GŧA%ŷ+]ŕ)$µ)m,PaÂ^g)TU<?+:J(D,ɃDAc>#(d[ş,>þ1$ʓ)<ɢ*œX,œ2,œUMX,UTUKgUZ3?>1cUZȃA]^)
 <e+|[Ǎ.ZAG,ZvX,ZE2,ZIĬZIcZI3,ZIBd:ɗ,cZIG,ZIZ2,ZȃU5;1,cZUBÌZÚKAP|ELvITbAB?Ŗ.[ã-avk//,G,Ʊ|/á0U2?ɉ.Ʊ3
 ,D]ƙ-HŨUB^ȉ.EZi:$([A)4ÂcGA$-*^ɯ,KAK|Č/M+2cGE22,GIG,HUÉKA;',Â/&(3?Ó)[*'%Ż0^M'>M)UL/M(R2c:Ü/GgLU2|[_
 *|:j,/ɇ/|;Ȋ-SHUcMEÉMœ3:'*ZaNA4,Nm,Nm9,NmD;6,Bn,4GIcNU11|Ɍ|]ѣ)|DEGrEqP;,(ȕPIR2[ô(>ƣ2TI2,<ƫ,MbU|Uw24
 0ƒɩ#&|ŀÛdÜAÉµ[#)IV>$)Å?#)EVi]#(Ã]#(Nm:&)ÜDI^(*ē$))[$*Åē/)+ē:)+ē;))<(/U/()U^'(U?'*U;'*U%')U,jsGE<K'
 ·]#*Æ^$+µ^#+IV^$+Å]#)]*)$$*Ã$$*NI$++^+,U^+,U^+.U^+-%3(^&.Ţk^/*$$*5^Ʊ/dµŢk:1(:&+ÅŢk:1*$$*Ã$$*Nm$'+O
 ]#*:--U:-.U:-<U:-,ƭ[)(;g+n;d(]F)7MmdjsBU$,)[#)ÜBU]+:BU[+*%'/>&/|Ě16,6Ě21dµ]%1%ƛ(,6>#(4,>#(|a7BdÅ]&
 1Û9%>)%%1IMm3,6IMm:(*Ã:&1USSU,6<#'3dNmE%)2:/*?#($Ǜ)I[/*d$o*|Ti?7*:$-µ/$.IV<%.Å%$-jsBe2>B)e2>B+e]c*
 Be[V5Ƈ/%8NIGIDvm,]#)EÉjsEÂ3,·]#*jsɅ:O)ŀɅS:z.ÅTH<$):'-<E2/(.:%3Έ|AÉʩ;$(Þ|ASSYRĦj$-*,6ǣdʩ|GÌjsõ%$(>â
 )s[0,,4</-:ϓ/dǱU:10:7([$3Å?$2:Y)]$3Ã]$3Nm:*3w247ƒƁȉ[90ʢʏRdŒƣΙ:$,4T.ƣQUADȹw2480Í/û/|;ǻ-cAD|?ä-,B:$*
 :N)/ȑ+>§.AB2,4NgZAcBUÊBU:++A2,DA|:ŉ.Ʊ^ď.DIM<â,g4U|U|UcDIM<++UD,DUG]ú4,5t|ŉ4Dm,DUN>ɜ*Ga[ɘ*>é(;þ)ơI%
 Ƨ,;Ɂ+KÌKU>ȑ,$ļ-(K-020,Lv,5>2-4LUH;Ș+$Ǥ*?ǣ+NgPgÂ/ŵ+cE2|:(.PAPc?1(|X,Ě2Ĕu<C)EZi;Ĉ2]7(>3/LaLn;Ǯ+SU:Ș,
 U]ę/;H):<'M^'(^?.?),6/8+ER^ȹ,|/Ǫ+6Nb4H<ȍ+:=*|/=.;<7,:ȴ)^ȵ,2,6GI]X'IM:ķ(cGABA;ē;GĚTm%2*?J)%$*^#($ʁ1
 GU2^53GUD/H-<[/HA?b(;&(/ĭ0$ɠ3[Ĳ/BU,4Ka:_)UR:į1ZUÊZU,%U(03,]U)1?#*5?#)30?#)50,+;%*62?#)79Ê%$*/1'^)*
 80?#*1$&.8?(*9?()1%+*14;$)210?#*9>,+225?#*8?#)3?#*65%&+343?#*7?$,83^#,9>*)441?#*9d;G*U,4IGgPAP?D)L
 U3,6/$/>Ȇ-BAc?((5%**57?#)7;$*83?#)$-+92[.+49?4)5:(*608?#)17d>J,?Ǣ)^Ν*/O*>ɴ((^Ƴ+U2?Ɓ.^((36?))48?)+D
 UB,4GA^ǖ/N<7.$70[x(%k*I/+2724,?#(49,LU2^/(:Z-d]Ä-,4Hn,P¹5^+54<c'cMI?$)ZA7;r(ÊMU:l-a6KAKc>ţ0;¦,4^m*
 L,HgKĚ2[_,MÛ:70>Ǿ-U^5+SAG<4/HA;4+i,4SHst|ŉ[2)È6>s(,ÂÊÂd?*(HU^Ø(v2,Skc>®-;µ-Ng4E]4+ecSI%¢./,(>'([ȕ(
 Tɶ/Ɋ4^Ũ-cUR2^Ǹ,d<Ü+cɃ]=+A!3,4<R(68,LU3c^C'/¤-$-*k,ZU5]'*Ü]í,w2F90hCYò-MmOe&|CM00$Љ)]#'4,+8,CM012B>
 #(3<#(5<#(7<#(9<#'21<#(3,+]$(33^'*44<#(6,+1[#(9^%*58,+6[#'66,+^((75B>#(6<#(8,+E[#'94,+%%'107,+3[#'
 12<#(^*'3/2(w3ɞEGYPTĦHIEROGLYPH|A<5(4cA005aA006;#(^#)B<#'7:0'A014aA[6'+2?#'7/$(//(A032A<#'3[&)40A<
 #'/.'?#'2/$(3;#(^#(4/%*5aA[9)8,B:/*B//'<#'6[5(]C)?#'2A<#(B<#(C<#'%A)010A<#'1,+D,D:'(7?#'8A<#'9,+12
 ,D027A<#'8?*'D031A<#'2,+2?#'4/$(5]@'D046aD0]Ã(?#'8/$(9/$)50A<#(B<#(C<#(D<#(E<#(F<#(G<#(H<#(I<#'1>(
 *2>((3/$*4/$(5,+<)'67A<#(B<#(>$)D<#(E<#(F<#(G<#(H,E^7*E^7'<#'9;#(aE010,+6?#'6/$(7;#(aE[I(2,E020A<#
 '[(*28/$(9,+5,E%;'<#'6[&'F001;#(A<#'2]<'F013A<#'4<('F02<%(22%a'F^A(F^A(5?#'7/$(8;#(^#(9]0'F>P'<#'6
 ;#(^#(7;#(^#([H(F051A<#(B<#(C<#'2%?'G<9(5,G%a'<#'7;#(^#)B<#']((G011A<#'2^r'G$9'<#':(*26/$(7<3'G03/
 $(37;#(^#(8<&(%b(G%b*G<3(G%b(8,H%/*H%/'<#'<U(I$d*I$d(I$d*I^G(I010;#(^#(1;#(aI>1(3,K^L*L$h*L$h(L^f(
 3,L/,(L/,*M00;#)A<#(B<#'2/%*3[$(4>C'M[,'<#'1<%)12A<#(B<#(C<#(D<#(E<#(F<#(G<#(H,$¹(+2?#'5$((6;#(^#(
 7;#(aM]X(4,M02:+(23>,)24/$(5,+3?#'8/$(9$*)3<3(3^2*33A<#(B<#'<3*4<3(41>('N>;)1,N018A<#(B<#'$X(N025A
 <#'6<?'N^)'<#'4;#(^#(5;#(aN;e(1?#'7/$(>3(N%D'[#+5A>#(6/g'NL/7(NL/n*NU?&(9,NU]A'>#(1<#)aNU^K(6[#(8;
 $)9$4(U:<(O001;#(aO<I(3?#'5/$(6;#(^#)B<#(C<#(D<#(E<#(F<#'7^'(:.'<#(B<#(C,O:N(8?#'9aO020;#(^#(1>')2
 4/$(5;#(^#(6/%*<'(30;#(^#(1,+2?#'3/$(4/$*6/$(;1(3;1(3;1'^m'+?#'5;((5:0(51,P00;#)aP%`*P%`(P%`(7,Q$A
 (6,R?g*R?g'<#'3;#(^#)B,R;d*R%9'<#'[s(R:^(R:^'+C,S$)*S$)(S[m*S?A(S]å*S014A<#(B,S;æ*S;N(S:N(8,S026A<
 #(B<#'7[$(;V(S;V(aT00?<(T<1(T^0(3?#'7/$(8;#(^#(9;#(aT010^0'T>T(T<T(4,T/4(T/4(F,T032A<#'3;#(aT[D*U<
 »*U/5(U^S(U[5(10,U023A<#'4%&(/L(U030%()32/$(3%b'V001;#(A<#(B<#(C<#(D<#(E<#(F<#(G<#(H<#(I<#'2;#(aV$
 B(4,V>8'<#(B,V:Ç*V01;+(1;+(1;+(12;#(A<#($%(3<F'V%`'<#(B<#(C<#(D<#(E<#(F<#(G<#(H<#(I<#(J<#(K<#(L,V%
 f(2?#'3/*(4/1)28/$(9;#(aV030;#(^#(1;#(aV]±(/$(3/$(4^4)37/$(8$+)40aW/P)?#'3/$(/D(W/N(W010;#(^#($s(W
 ?Z(W%Z)?#'7/$(8;#(^#(9[((>v(W>v'X[+(3?#'4A<#(B<#'5,+1?#'6[$(7/$*8aY001;#(aY?q(6,Z>i*Z<I'<#(B<#(C<#
 (D<#'3;#(A<#(>%(4;#(<$(5;#(^#(6[U'Z015A<#(B<#(C<#(D<#(E<#(F<#(G<#(H<#(I<#'6;#(A<#(B<#(C<#(D<#(E<#(
 F<#(G<#(H,AA^3(6[#(7A>#)B,AA<Y(18w3430,ŒǊ¢Ŝ>$+mSERT|t|ƽxkl4đ/$*ƽiD,đ|iDcă(Y|ȏDLbBEGm|SEGMiliD$$+w4
 4¼etOL[Ŏ89cA>R(A>R(F,A026A<#']µ(A039A/ŋ(;ň*1/$(2,+3?ŉ.;#(^#)B,A>Ľ)]%'66A<#(B<#(C<#';%'bA097A<#'8;#
 (^#(9]+(100A<#'1;#(^#(2;#(^#(3/&*4A<#(B<#(C<#'5;#(A<#($%(6]&*7A<#(B<#(]&(;m(A110A<#(:%'[9'4?#'5[$(
 ]X(A12/$(2/$*3/$(36,+42,A202A<#(B<#'3?((2],(2^Q(?#'9aA210,+5?#'5/$(6;#(^#(7,+aA227<#(>0'7,A26:$(6%
 )'^''8/)(90[+)94/$(5/$*9aA300<1(30/$(10<E)32:$(3^J)332A<#(B<#(C<#'3$L(336A<#(B<#(:%(7,+/2'35$)(6/.
 )364/$(5^')68/$(9%A(371A<#'2</)8/$(82;#'3|!|y|./$(/%(4[')86/$(7%=(393|Ã^#'4^^(410|<f)ΨÐ/%(A|iD%%51
 <@)450A<#'[x)457/$(%C*5^h'1Dw68¼Bvɶ*ƂSE-A|NGKUsMFjdGBIEsFȡj[$(|PIPAEM/%'b5%$)BAdNAA]%(Ƹi;#'lTIT]$*
 NZ?%,mDA|PA|NJgPj^#*]*06]*-M?#'^$)TU|M^$)NGeGU,/$'VEćMeSUAb/$'AiGv»UNYv,NTOQPi,KEUKEUTNDaNKmDgSUU,
 :8'iZEÚ(PƥzT|KUlNTAP|MFAA%,'KEâPAÈbGH^+'!bPvÈbMj|NGG$%'lNZUN|MEUlU|YUQ|N>',<#)$+)NTAaSISaMGǵaMEUNJ
 OMNDEUQ,MOOMPUQ,KAFaPA|zE!EWaND%$.PET::(KPi,NIKaPâTUAƋL<#(SjJv,TEUTEUWi,MAiYgKET[)'A;3,KUO?-(?3'¤Ú
 =MMAbFIRgRĤKPOQ,S;&'AP|PIEETǚR]5*ƔQ|;P'T|YÚNYIT|MjGK?+'Q,PAA!bNK?#)UNKNOWN,NGG<0)Sg;2(MBeYgNYElT>L
 (,SOlPAv,NSHIEE^8(,]4(ƥNģVEbLĈi,NAQ%)'Qc^d)B|]^)d]V'$Z,SIEbȟ|TU,=M|NTEU:.(ĆEzbKIEĨYEU!bMB<3)Kv,PEĚ
 gYAFU?F-Lv]9*[[*IEsÂ^A'NDU|NJAA]Q(?Q(ĨPIT$e'N:/(ÂT%&'Q¤;>(TU,%s(T??)MȺ|^.'[J(YI[2*]_'UQ]**[f)YEć(e
 AbPkÚVEÚNG/h(|MVÏ:P(|MBȄ^P(SAK%`(TAv>^'Q$&'[3'4ůEdMFIYƥSUbMBEURgMO<7'i,NYAEMAbPľ?(*T>j(ElF;w(B?)'F
 EbK>9)MA|NJ]M(a4NJUQAdzT<-']N)i,MaKI//'OM:L+C|^x'sM?°+ZaYÚWeG<c'%X*ND/+'rE$9'A[<'A!>3(EKEElGBA^Y(I
 R|MKPA!Q|MEāN%T'Ⱥ;7(>H'R/7)DOMBU;Q(|CABɜE-TR>5)[I)P^+'P;$'KƥYU|MUOMAbNZ[X)UbNS>d)?+(Y^B'$.),KAA»ćN
 DIDA]E'ÈbNJUEQ:Ã)YUbSUA$=)UAi%Z)V['(eSA%h(A|>B(./v'A]&(j,L¹MB/5)$°)ƥNTEľBA$r'T:)(GGÚFUE>?(lNSA:q'ƥ
 BUÕV?7(i;<'!bRU]x'ĨLv[1';:(NSUOT|$J(NJEEEbK%3*<£)]:'?'(ñUlNJv/N)WUP<&(EElNSĤNɺKUOP|NK%t(:+'<F'A?V'
 ^m*YAA>$'P¤^='ȟFO>1'g%T*MBeYI%I(;^)EUX/$'M<L)P#KElYUW<V'J%&(IEbMUAEǚQ,Ki|(W,4FtIGUEdNGƥNƥLIQ,Pm,Pi
 ,TET^`+D|?g'dW¹NJgMFj[#'EbLIEE:,(lNÂE[g*Ab[L(W$T(;d'N¤:c*P^m)T?`'[I'lS]Ú*J¹SU%C)$u'MAbKUĤS¹MF/,(D%
 6(AzERgM>((:Ê)YE<0'%v)KE?J'/H'b:Í(RgTU,GH<W(KYEbFEUFE^])DEE?W'OFÚz>P)Dj,MjI/%'EāPUUl^Æ*MFfLÚ;J(P%E
 'aKWAET$Ò2<F*>H)!ĨT;W(>Ú,M[.(<))l^ø)üPEUT/@(Ub?¬.MFI$C)WAi,YUĤP¹YĽ[W(<Ã)SU%?(N[&'/j)K<Č)Ol?D(KUQ>]
 'M:2'<ñ)J%,)¹zUM$c(Ĥ;Ô(]y*GHE]*),Ri|Þ,TAbT>Z'Yg.gL]6(M<#($/'ŦUǚgÂć]D(NUƸ:2'bPEbNIƔQ,PUQ,MVÏ=Q]+(MU
 ěTgNTUU/f)SEVi,SƥFAA<`+s[m'dTOj/»*L¹VĤ=ȡAaSĤR[ó)$>)^L(AbTv]<'aKPEćWUO»b^Ĉ*<ú*TOfKĽL];)%F)OP:?'?((/
 C)O?+)b.MGBA]t*PEĨS>·*!b<%'%A(X^Q+M<±)LgM¹=O[F($U)DIQ,TAi|^M*ElPUM?O'A|ȮNã[Ã*Ès/t(YIEbGH%r(UAbY$K(
 PfTU^p(:$(S/a(T?^)V?$(WEć(v,PĿA/Þ)v?o(EUR^x-Q<k(:D(bNZƥNKĤGBElTÚKUElYAP]S'|CzAV¢YIT%h(Q;6'ƥPIE$z'U
 EQ%t);Í)GB><*âKEl;.)KAvI%6'lFA%S'M]l([6'M$J+],(ƲWEi,NZUQ,POj]½(%+'lNA?¾)]d+FU|gMVI<R'Q%,']3(T]0'<Ō
 );?(^k)âPA|PEOPL%((CnL,F%×)bA;j(fg(Q?&'ČRn,TAaTAQ%J)MY|Hū/Ê*Y^7)?H([F(YOQ|SWIMMu,4CădYUQ,YāK:X(>'(
 JEsEPOěPUbWUbFEE?ĵ+MgrćR%?(%4*AƔƔQ]3'rŚY,NaPI>s(KfMi,ɑƥTEñgMj,ɺF^Q(:ē-F|ɓñǟbrbT:E(gLa.g.:§+$:'?9([
 f),M,SUUǚgſEćKY[ó+?K(ĈJ[;(OQ¤ťaNÈ>9*TE?8)PEbRĈ:8*Ki:K'WA?#(<8*P>N(ĤWaL^7-Bi,R;8*O[Î)TElKPaSvBaVUEQ
 w6A40hMRO|*TAcNGgYfMIM,BǗƵgƟgHAfDAI±ñEAAbOL]©*m,PaOffRO¤gĉaEaWabKfLe,LaHAgRgTEKw6A6ƒʈE]()b1ή%$(hTe
 GSA|*OZcOC,]c'X,AZ,AC,ƥĪVZ,VC,VQ,VX,EZ,EC,EQ,EX,IZ,#,IQ,ĖUZ,UC,UQ,ćAWZ,AWC,AWQ,AWX,UIZ,U#,UIQ,UĖÀÕ
 àUEX,ÙUEZdAWXcUEC,/$'/F'UE^('UZ;#'C;#'/)'ćMZ,MC,MQ,MX,KaǈGA/g)aYaWaPĝƵǘMaNaHƑHŁǗRaNHaģCaTSaGơTŁHaX
 ƶDHA±ǹ<A'C;GdD0hǵSA|VAH|*iNIdKaSbFaMBbYIbGÁDHIgKPÁJfHWÁWaZfGBŨfCbUWĿfBaVťE/[)WADDaafOfǟbbIw6AF0cŶê
 Tɏ=W]#)ȏ[#)=W-%$,ǯ-/&+cʅw6B¼PAHAWH|HMjG|ɀ|KEEBdKEEV,KIB,KIV,KAUB;#'V,K[#'?#'EB,KE:%'I:%'/&'OOB;#'[
 $'WB;#'%''AB;#'V,K>%(;*'A<*'>$'[#'?#'$''W;$'<$(AVcʜ|VAUdNțU,(ŧAĈ(U,!ĈKAU,QHAťAŧ(ŦAU,C:&(<#(HNAżL<$
 (T<#';$'AU,X<&'AUcôCIM|TUB,4SfKEqƟV,SUv,HĤTAUMcȉVOS|THĤ4TÈB|C^=(?('ïĨ]%);7'4FEEMdXYEEM|NTXIV,4RHfT
 OV,FAIBd^&'S/C'ǄJ|SUAB?((NRUaIB|Yv$2'q/1(SOV|ROGw6B50cȧd$eSB5BcȱSdǮqɇqΖqǮ|Ζ>&)B%$,R]#*w6B63/>.LUBd
 XYOfHLgɅ-SɈsHLgZWJ|ŽJ,HNUB,NQIG,X??'NTUJ,AV,TXH?<'C>=,TSEEB:G',=qM]<*HAI>,'S|NTOG;#(,4CUA%?'HOOJ,T
 XWV,5CHWV,4PUB|D[`'NrSğ:3)7DcCLe&|TS[-',4YEEG,LIq(UJ,XY])'KOfHAWJ,MUAqǡJ,țB,PH<c';#'Hv,VAJ,FAJ,YA[
 %'?f(M,VWJw6E40hŚEFAIDRmƼMdqV,W,tIȃ,KP,P,lG,F,gK,aJ,bB,C,ťUȼQ,HP,NY,X,D,ObN,R,fAgY,1ř^*xǑȱcEL[%(Π[
 #)Ω$*)TE;**ȫ?*(ȫ:0+jsǷîc·[$3Æ?&41ĩĶĂAIVaΫ÷OHw6F¼MIAO|*PAcBaYI|PaPLaɑHaȗMƶVaVFaTaD^&(TTAdTAcTTaDDaƅ
 H;%(NNaȗƅƅNHƑLYaLHaLHYaTLHaDLHaT;$(D<#(KaG;)(KaQaQGaN:#(H[*.GīXaGHaGHHaTSSaDZZĝĝHaTģDZH^2)Èd/$'crF
 yŚ]$)ģSSaZHaZģT?)(]'*aSǹZSaZZaZZSaȗ<$)Y^$(YaWaÁHHaBRgSYgDZYgTbTSbRTEw6F4FÍʜ|ȢĜ*NASnIZèȉAȇR;$.$5,VO
 #ud$&.1ØAdAaAHH,e,ĸfOfWfW,bi,EÕOEY,gIaIe,IĸIfIbIgIU,u,ĠaUe,UĸUĠEgUÕY,YgAbAEbERR,ɾ$$'E:$/,AgEgAU,OĈ
 ,ÕUOG,YUgOG,O¢VW,IG,EaIOÕUIw6F8F,1Ŗocƽo,ABOVbʝ1*TjEĞ+6,*[O-jEǺd^#(:ʫ(]#(8w6FE0hTeGUT|I¿ƤNœU]$3ÞļmE
 SEƺÐc;&1hKȵe|§Ƭʛw6FF0,VIETNvESsǷrADu|ôCa4NHAYw880%2-ȸjiT->Έ(2FFwA>*'ɒ|*MmNe]<,3>&)5%;*7%<'?[*^=.4;
 &)D,4;&,wB000cȗEhHI!G[,.ȗYbHiTAI>%0Ɠ2cA-WfIƓ3,U],)^0(4,O$&)KAƓA?#'KbKIƓ7,KUƓ6,KEƓ5,K%'+O-KgSA;&)SI
 ?%)SU;$*[5*SO>()TA^-)TI;$*U;$*U-TfTEƓ8,TOƓ5?#'RaNA^$)N?')?#'TbNU>.)N$0)?#'KfNO%-)H[4*H?'*H%'*HE;$*
 O<1)MA;$)MI?#*$0*MEǺ?#'ɑ$0*YAƓ4?#'YfY^&*Y?%*R^6*R])*RU%%)r%%*>&*W:)*WI?#*]%*WO:7*-MU-MOǺ^N=WU,ɒ;Q4
 IdYbWUwB150/)5§WIdșOwB164hɒ>&;NwBC¼DUP=Ye|*HcX,P,lF,KȼB,D,V,G,R,P|N,D|qF|N,K|M,R|qÎS=e|DH,DH,KK:$*
 J,HL,LH,RH,M,N,J,qM|N,N|M,J|M,S|J,MšNšJš4¶S|mȊseDǽSš5ŷM|qN|qJ|qS|[,(>$(M[$(M^$(J]%)š3N,4ScS|l4RdP,
 4RcT|SdR|ScW,WH,W|R,S|NdMcK|R|qG|R%*(K/'(A[8*ƃOafAOU,gbIbÙgUgEE<&*ÔȋeĦI[$+bàgYbǟU,XW,U|N,àU;'-Ġ/D+
 U,OOH,ƃOȄaWfWgWEgWOW%³)|UdfgAcÝNm|edvc^()ide,jcVOCn#|MwBC7ƒAFFIX|)ýSECeTcȏ$%6o%%6ßð[$+ȏ[$4ǯ]$4tTAï
 D;$*dû-TO-o^$+TeGilǀEƺ,Iƺ;%+ƺwBC80cêACUTEdTɔ%$*ŴbàŴbķōǆźbðwBC90c=W$*gȖ>*)CÍOpď,TH#K|*SEzCTy,_ȣ,ƁCH
 mOOK|ʅh>_(Ɗ|ît|*ă(PcǴmUu[$,~|xƋUP?#(wCF¼ZNviNY|ŶôGO!ZDO|NIZKO|S|KRYZHEM|j|ûd/%;TStA/$,;)0^$,/$1SrD
 NE:$,MA=ƦVYSH]$-;$3VYSOKO?'8;0'HOKH=<0-;%5?)2:%7<:>o,/%:>:.o?:5o,:$0]:/o^:4o,<$2%;/o/;?o,<%=;;5/63
 <8-;,0$%.xReNO|[%.b<&54>&*d;-)$+;<&*:@,%'(fZELfj,!VNfTIƟYaByZAYaUDkKaPODŻTKa=MKaKUPNAYaKACHKaZEVOK
 ,SKOBa!ZSEKa^.(>Q+wCF30cTjn|ReGsôM!CHNf5SVETLfTr]#)côZADERZHɓDEMExViNY$%.OTSECH]1)CHÛIb4½ɂEd[%(Ka4
 POL:4'dOBL>4'fSyOCHYA|NO[*(TO>*(DVOE^#'IEc:É)u|ŒOMElôǳVED<$-%F),č/9/Ή1P.ZNAK|ȢzVELĞ+1dDIrǓ|FLü%*)R
 OGwCF5ƒNEUME:,'UKdɄHYcPA!KLIlDVA|V|ïLNñLYUěZA^6'EK,SġIțdS|O$:'McPErVODɓNEPOxOYe<='c/'+p^=3ïLYUxKaP
 nKaZAPYtAYaGOLUBCHIK|ByZY$2+/P)Y,/O(Y%P,YcV!KHIYA|òx]H($'(:/'/'((YaTr$$+]6*EVA['/4['Ac_;2-³?5.DERB
 ?=(KHvILf%W'^Z2SKvEYț|;-,d<-7[q+c;d//4):).[5/:(+d^$*$H.[93<+);b)<P(?;1[),$)=cS=ZȵIEdS?<*ǦZAKRYTOb[
 ®,c/_-FITaKOBYLaZ[4(axtYA/)04:(+>$+|I$*,?#*|I/',d>-(^3*$%.S|ROGĤ4DVUMYA:%*YMI^*/>H-McPOLKULIZMY?0*
 |;:2xrL?[5O>A*:1(/=*POLUPOVOD%((]#)]A=]%-<K5^R.|PUTN%K/%$1O>.*]$1:+(]'3$W*$'9]%4Gȋ]$'pȈ?z.ȋ/():&BN
 %'4a4½]r3dGȋ^5/4>',cMECHIKd?$)Y<`,OY>A1Y;A6Yc:L*TRYASOG(S:v);$(^0.;$)xR[>)cOSOK^y;<Æ(O;v1:x84%N1]/
 ,]():8/%?-:Ez5:E94:E35^I.$<(KAcKUFISMaOB(KfDUDaNEMKaPAUK,"

end Wirework.Text.CharName
