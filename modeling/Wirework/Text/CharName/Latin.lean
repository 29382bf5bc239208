/-!
# The names of Latin, Greek and Cyrillic characters, and of forms that letters take
-/

namespace Wirework.Text.CharName

def latin : String := "
 @20hȭbǎμ&,Α,AͿb)ʙ>$1ȕǤ,ψȧ,1jbɤEhωʆų?%.νAdB,ϊh)ɦlʗqo:&3ΐCilßǆŴE^$+Ů;2_ǒY^.,ȁ,o$&2į@A0,NO-BrAKȘÓǎ%[-
 PȎȓΚ&,Yi&,Bɿi|Ĝƫ&,DIAER/](ɚYo&,FEMmmsyDmn|Ήʄ_ƳsʧÒ&,Ȯ|ǭ,rGIxErȓMACRj,DEGrE&%i(<g(ȜɻTWf1ÆEhACUT?K,M#
 RO&,PILCϑ&,ÄķCEDIǅɻjbMASCUL>89o?8IVULGk|ȶʩdõcɹShÓƝȤApŴb5]9'bʉ,į/M-RuĀdAbCp<:+E^)@;)-dI[&LęNpįO%3Ph
 ʃL#A/a-ȤOĻdU[1LYp%&)TƉ,1ĲSHkP|Sd/DY/Dz/DzDIVIS?C,Ů<CpYp:&-1?f8ĆCRj©;%:$(9BrVä:%8]':OGjEK©;%9$(3C[6
 -ä:%8]':ʉ©[%=[(:¶Ǿä?%;;.<kj^-9A/B6D]'<D]'?ʎä;%8]14E:Q=E:Q?E:Q<E:Q>E<A@E<ABE^V=E^V?E?A<E?A>G^VAG^VC
 G:=<G:=>G:=@G:=BG%¾/Ē<%:/(3H>8AH>8CH%^=H%^?Ipƾä:%7]'5$c=I$c?I?G<I?G>I;]=I;]?I[L@ɗI^',ƆIJ©>$0;+3J:J
 AJ:JCK;U5<%:dK!>Ú4L<Ë3:%9]'3?->L%a@L?¡3:%8]':Ä¶©[%=[(4$f=L$f?N^<<N^<>N^<>N^<@N^<3:%94ͽ¡BY|AͿE:N4iG
 «iG;-3O[u=O[u?O[u3:%8]':_/B-^%?]q5OE]q3O>,4R/K<R/K>R/K>R/K@R/K<R/f>S$2<S$2>S]«8[%=[(4]7>S]7@S]7<S]
 7>T%->T%-@T%-<T%-?Ļ«T<¥?U>ç3:%7]'5[o=U[o?U[o3:%7^,;RuǾä[%;[(6>u:^%>%)5>ó=U>ó?W/cAW/cCY[(AY[(J%Ƃ.Z$
 s/1ĲZ<u>Z]ą7?%;>(5]e3:%8dàqBʎ$Ó5Bǻ5ġBk/52Bp<%)?/3ŖÅ©^$3%@4çOdCĭ],2Cĭ<(3AFR#e|DdD;3DD;3/ɱƍTA<:4³Edʖ
 açbF%2<F%2=GĭdGvMA;(2HV>'3IOTAdIƕK/.<KĭdLpĜLvBDA[O@ĮMdNp)$,6Npào|z?ă;Äį5]Ǩ6OpƉ$)4I«OI$&3Pĭ©/%8*Y^`
 9·©^$4%'3EÉ*³Ě|=OP«TpPntn/R8Tĭ;(7?'?ȌdUp<B6U<B=UȍdVǻY:Y<Y>0=ZĻ«Z$ǆ@ZH,4]@+$-)<%/|;%,4½ǀ1*·Ļ]M8FIVä
 $%6*ÓǰĻcWYNN,ȷn|CL#K,(¿/$,nVEOLk:$*;H,;$)[r4D:Ê1Dp;Í;%M3DZ/ų?JdLpĲJ/)2LJ/(3NJdN/(FN/(4A;ß<A;2>I]'<
 I]'>O]'<O]'>U]'<U]'?:ÿ2£:ħ.?&D>*J<Ğ.>&F;*HCA^1H<9NŴä>&FɱE;i4A^AKA^AMA>Ĝ2>*3?&<>*?Ep;)8/ȱ@Gʎä;%9$(4
 <a<G<a>K]'<K/p?<Œ4;%9$(@>C3;&D:Õ6/43<%:dJ/$.?Å6?Ä:?Ã4]D9>u7Gp:t8HWĹd?×(NpŴE$-2;%//Z4[ž3^§2?&G]b::)
 8E[5>Oʎ:/3:&B>6;_Ŵ]59_[<?Ó%ơ-%&A/Z4?/CE?/EE?/EE?/GI?/CI?/EI?/EI?/GO?/CO?/EO?/EO?/GR?/CR?/ER?/ER?/G
 U?/CU?/EU?/EU?/GSpŵ¦ř]%>^(3T^(BT^(DYOGH©>$0;&3%Ð=H;á5;ƕA«DǼ^]4U«OU$&3Zĭ©/%7?ĊC«A$ǠBE/ȧ5<%:?54/ĝB?&
 G>*:ƾE/*3:&8])?;<7?%<>(B]/>[ĩMYp:).;%9dLǼ,NǼ,TǼ,ɗJ,DBȪ,QPȪ<ń5ĻdCĻ<Ǽ3Ļ?ʫ:BkdTpư$*9SpSWÛ|ŗdZ?$3[24ǰ«
 ǰ%13B]Ή3Bk×V,E$9>E$9?JĻ«J$(?§Qĭ|ŗ«?%3%)3R/.=R/.?Y$(4;%9ɱanƂ×%$)BǻçfC<^/pǀ5ėd³bʖa4^(,dçb³çb6%&.Ə%&2
 %h-ƕGǻƬG,1śG«GvMAdRvS|Ɖ×H,HǻHiGǻIƕIOTA],:I«L?Ȣ7ǕlȌdzZH×M,5½àzGdMǻ<Ȱ45Ȍ^0:N«BkƜfśOE«ƏŬAdPHI×R<23/M.
 R|;%15ǀȒ^U2RpȒ<4>R,4ÓR?°3ĭdĚ;V9£ė,Ȭt:ȴ0,ĚǼ×l]Ȭ9U|ĜUȍ,Vĭ×V,4W,Y:5:Y«Z^+85ǒd>S'4[0-1*ǰcPHkYNGEn|VO#¡
 FR#tIVbÓǰ,xrTCH¡C,BI(BI%Ȟ,>21B,1;R3$x.śGǻ4H[(2πɱ^P;<Ã=,*ǰƕ*³ǰ;φ>ZȪό,/%,<U0SȪ,TĚ%$-C$'6FiGȪ,LS^#-;-
 -1*$H,ÝCUSSIVb*BIȷ;%0«ĮH^q27eD|ŗɠ§H]Î0J,R^¤./%./H+^v.W,YcP.Mb_%$(×ŵ?ҷ/³ĩo|Ŋƛ):$-ǰ,^L8,)Ƕ,o;$.UP%$.
 ~|Ƕ[Ң5hCkj,Ȣ*ȁc^ī*:ѽ//ҧ1ßȁd?')<&0](0cɸƣŊ^$4ąƜ<?2d>?1cŔǁ~|ǁǤ,<ґ-hBrVb¶Ā?ѕ//ȏ0į_^3/<>4RHOT#ƺcď[&+ú>ù
 +L,qX?M9cƢ!-êŖĜ/$1ȏ%$-=W%$-;()?$0Ym|DEƮu$%(²YeG/%8VO#u,UNAȇRtö_/e.ß/Y1d][/]`CRucÄ$T/d_]$/>E7cßįɧƣB
 EGm|]>+biD/$-?%*=W>%,%$-ÂLF,ç^#)ß)Ȗȩ:101[0//r6į>j*ăǆ$^1<Ҁ/ė^_3/^9:z)ȁ¬_;%7$C7CΜU,$Ǖ1×ŵ¬$$/³^%9so,^
 ,/¦:5/¦)TŠ¦o<$/)eGz¬Ɖ]Ã2¦UP%(/~;$/Ǥ¦Mm<$1PntnIZEDƺ¦Ȍ¦ŝ%L,¦$0.ŵ¦^Ǉ*<°+ȁ¦B.DGE¦Ó_kCH¦Ckj¦ʉ%B0/[([)4]
 $./a)¦[a)¦ßǆ_;$+<'*ʁÙɉsʁŇ[$3ÙɼS[&0]$4o?M4Ó%=0ċ%$,EAGƖ¦X¬Œį_ă^Մ-^¾-[`(;$/ǍPEϏIcKyjIqDInYɄA|TjOqYPOG
 EȑMig1:2)¬Ȧ&¦_ȁ$h4¦Ò|ƾ<i-MOĉT#¬nMΥ¬)oÿ[l,ǝ[$0ɕEMsǊER$Ï3Ā^s2¬FERMtaX¦)Ƕ¦o^$3deDé%%3c$,31¶^®0ΛK¦_]U.
 ʡ¬_/i.dc;h)dŷį:m0bo<>51Ůa4bgfU]շ(H,M,R,lV,X,@370hǍ]Ɂ3ETa1ř?$1<&2ȗSvPI©;%:ɩn&,č?$/^*3PvPHYLIeēGvMĒ]
 %>>5'A^g2§³LUNtE%-'MAæcʇ<%8³/&>1Ɲ^ɢ4l@384,TjO[w4%'3nƂp]%)eO|TEzI%E4Eȍ$'.dET<(0IO;$0:/'C,OM#Rj%%2bU
 /*5Ŭ](/[R2>+-;6,£[6=dƲa$J)ƍTaEȍ,ZETaEŁ?Z'^3'aKAPPaLvDaMĈU,XI;4)ȡgRHf@3A3,:G'aTAU^4)ȡHI±gPSgŬa[26%'
 +$%1[h*?G<d;E6:EA<,+;>=$=)^<uÀ$=(>=s$X6>WI?S+KAIæ;9(æ;7)æ:*+ĭæd$î(£$%.>ę-:%41PHI¥PI¥^..*ȗKOPPA«;%1
 *x$B'«[$**:µ*«]$+*^,5/,0?Æ0?$/hɚT#ƼÂI<d)?$0/w3FEI«F/&5KH:&3K?)6HO.«Hy;&4GeGIĒ[$3<44IMĒ?$0>&4D/1*<$
 /hǍ?l(¥1RHO¥/Ð7*Y$Ӽ.$_(?'2Eȍ¥³[%8:65O%63O/&,<0/[(;e©<$0RHOĻ:(2:ìzæhəƼIEpŴEdIfDJbGJbUK!mĦIbDZbBYELy
 USSIe-?%-gYgJbLJbNJbTSHbKJbI%+/ÙŨZHbaBbVbGHbDbIΏZbgÙgKaάfPb¢EqTbǟF,HaTSɖbÈ¤CơkȓYEƭȮ&,bɡ[Ù4d//C//z[
 D1?D0?Dz;ԯ6ŬA«Ŭ;z4Yt©<$0?W3OTIFI¡ä%%6<'3ňTLsYUS©%%6$,;%&.],9%)>BIG$(,]$/%-?]%'],=>(;KSI«KS:Ҍ5/&3P/
 &5FITĒ>$0>24ZȵSĒ]$2^&;p/Ǩ6©%'K;R4UK«UK$&3RĴ^]./%8%b7pTIT=©?%<>(4T«O<3-%ĀCƪDS&ȩə;-)c<ǫ,èDASIA|PNEUM
 taPSILI:$.OKRYTIbǮ|;,2ΖS&:Ï=ÙIpǀ1ř]%>](3EMIȮ&©;%8%И5RpT#K©:%7^P4GHEpUPǠ©>%;;(6ʎä>%;;(<Äė©$&;[Ҿ9HEp
 ʯ]%>^(4](B[(CKA[(@KA[(Jɂä:&C]):$):%G?BÛKIR|KĒ%%6<'3i<9@i<9;Ɔi|GHä^$3<14P>UCP<UEABƟSĦHĒ:%7$85S$8AS>
 NBT/ZAT/ZCx!ɔ|U©%%6<'=Ļ>(;<S?H<fAHA^NDTsTSä^$3^,3ļ%>8]%>^(6[p=;&D[@4HHĒ>$0:Y<ļä;%9$(<<9;[&I*PA=CHK
 A/Á;>д.<%9<14KAp<s,:%8^m4Lpŗ©:%8]'3i[,;i[,=i[,;i[,=ƟKAS:J0<%:%-4M%-2:%8d^F+[Ͼ5]F3:%9/ӾB/ӽA?u5A|Iä[
 $1;,4I:U=I/U?ʖĒ?$1>&7<58$&@<e6$&2]e4^(C](8[%=>z=DZä;%8^B5>и4;%9$(4]2@I[2BO>(@O>(9<Ϟ4<Ϡ9%'9?*4<(7$.
 D/IA%ICUp<զ=/եJ«U?-I_/ժ=_<ӿ8C]fBC]fDG[ÜBG:óDYER$;8^%0%/E<Ͻ8©;&D>Đ5ĭ%Đ8]':Ļ$(8>Ő;OMI|Dä]$2^&:J$'8J%
 '9Z%'8ZJ:+:Z;+9:';L/'8L%':N%'8N%':S%'8S%':T%'8T%'5³Zä/%7]č5:S;EL:S=LHĒ<$/]/4/&3RH]ȏ6E«YA?14QA«Q:)4
 WE«W%)4AzUT|KĒ^$4$<;Ä?<7$żDi%)9^%?;ƈ;ʯ[%=%ŕ7pʯ^%?%5;)^4=)[47DZZHä?$1>&4C<&4CH:b<ʯ[%=wE¼ȤApRu¦1ř]%=
 ]/3B[Ԍ7?%<>(:ŝ>(:/.@í?(>í[(9C%ԯ0£>ö-;&C<K5%;@D%;BD%;@D%;BD%;AD%;CD]Չ5<%:/(:ʉ>..:&C:f4[Ģ/£Ŵä:&C])@%
 N2:&B])5?7GE?7Pƾ[I/]%8^(:>_4$Ƃ.;&B]=5F$c@F$cBG?Ō=G?Ō?H?-@H?-BH[m@H[mBH]Ŀ7?%<>(4>m5<%:/(9;F(^P/]%7^
 P:I^V9]%>^ƏC$l2>&<:l=Kp%)6Kp]'9]K@K]KBK?¼AK?¼CL;.7?%6>(I£^i.?&G>*4$6AL$6D[µGL[µIM:M<M:M>M]¢7?%;>(5
 <G@M<GBN/.@N/.BN/.@N/.C%KAN%KCN%KGN%KIOpƾE>£2/&B?)C<Â2>&F;*4]Ā>:&C])@%8<]ĀIP%h<Pp]'9][@P][BR>(@R>(
 C<b7?%<>(C£:þ.?&G>*4%jAR%jCS?;7?%<>(:ŝ>(:/.@?Ͼ,%/2>&<$0DCkj;*6>&<<7M%'1[8A%+AT:E@Tp>(=:E@T:EBT;VAT
 ;VCT>Ã>:&C<ɂC¦$Ƀ@?)::Ī9]%8^(:>6GU>6J/×=/&B^ɡ@:×6?&G>*3Vpƾä:%8]'4/]@V/]BWpŴä:%8]'9]?.:%7]':^=2?%<>(
 4^w@W^wBW?=@W?=BX/.@X/.BX<9@X<9BY/.@Y/.BZpʉ©[%=[(4:?@Z:?BZ[í8[%=dH?$4T%=3WpRu¬Y>$4Ap^Ջ2,Ň[ò56ư|žêž
 1>ȸ4kP|S«ƍ>ԏ6>?@A>?BAĭ[P.[%=[(:ʉ]¼2?&F>*E<Ń2?&E/2J>6,$+H[:S/Ç.?&F>*Jŝ^*E>P>>ǔ.:J2/&B?)?;I2/&A?)@<H
 7?&E>*A>G2/&A?)Eŝ$*</FAE<z@Ep>(=<z8[%=/ȴ>:(8[:9E;¥B?&F>*E^W2?&F>*E]X7%'J<+Kƾ$+G;BN%T<;¥QI<UAI<UCI^
 a@I^aBO>(@O>(C$4AO$4CO?bKO?bMO?bB?&E/2J;9=?bRO?bB?&F>*I/O<?bQOpƉ/J2%&A<)>%I2%&@<)?$H7>&D;*@^F2%&@<
 )?]EFƉ:EAU>y@Up>(=>yAU>yCU[PEU[PGU[P<%&?$0D?6=[PLU[P<%&@<)C:J<[PKYp^=-:%8]'4?U@Yp<-=?U8[%;;.;:@7Yp
 <?7>ͷ*-ɴSH|LL©>%;;(@V:(>V>2:=OP©/%7hǍĲnƂpPSILg5DASIa%$(£VA.a^$(;$+]%0OX[%0OX?%0PEϏI:&)^$3]Ɲ+/0Y/0z
 ĲEȍ/0twF18$:+^,1^,z20[63T?CR^Pz$0e[PzIO^/S$=z%0f%=zOM#R^az4^k,^,1^,z5^k3U[uO$DzwF59[:+^09DAS<4*B,6
 ^.*<$*D,7%7,F,$L=Ŭ%YR:gz/0Y/0z[ï:<,*5:*'dEȍ:%7T:'7IO$%8$f(;)8U[+<Ŭ])5wF80d$3.:9-YPOGEȑMi[A+/%5;C1$
 &7$E1%)BOX$)=^%>^I9>);>&A<Z8:=8òS;=4:%,<=;%&.>=;:)COX/)>$&5]=C[)<?&F^Ć;$Xz$Xz$Xz$Ĕ:]WE]Wz]Wz]WzŬ$X
 6$Xz$Xz$Xz:=?/Xz/Xz/Xz<ùB!CHY,5?Π*%Q;/$1<N9wFB6?Ğ06>J<?/K[,'a?53KyjIq:?7?.0DInYɄ>=3g^Ì8;i<5::KC::T
 ;ěM/;8$c2d;&(:ƅ@:D8%>,]f.>ŉ-D6,5/B7:ƂH<N?[+,D,1/e(;5NUȍ?5QdRHO$Ō3/Ķ3$605<8D/03[8>].2/.)1]++$:51]ŭ,
 F2«Ŭ$clF$cT$Ŕ=Ŭ/cF?ũ,a@FB%ԧ-§ƆFFdFgFL,FFgFFL,àS|lx/('13hkMiIA<(4Mi|Nƃ4EěmIdVEW>$(Mi|XEH]((DhHEBrW|
 *YODpHI.Q,1Ū|JUDEO-SPeIS]6)KaƆYIDDĥ;(':#(PtÁ*ΒIVsAYm,*ɢsþdDAzlHbΗöÀMĨrÉTAVc?)/Ǥ¤mp]#(ķ4S[#*ƱĚ£>%,6
 >%*cþp$3)4QvtqMAPIQcƲp:)),GIMEL>$0Dn/&2HEp$))VAV?%0ZAYm>$.%F(38,T:)2YOD;$0ÀKAF^$0;$2;?)<+4bMEM^$34
 0,NU</1SvEKH?&43,ÀPE;%0PE[&46,țDI%%0QO[10[L(?-1H[;2T]>1:@-HOLv,Ʋp!F[U(/$.PE%$.1Ɔþ|(ŚhA!Bȴ<Q)AS(|IS
 OLt¡î,4ÀîcBEEH]%1d]%.Ưî,ŚI%(,P$(ZBEH/(ZTT:(^>-_%(ZV/B[<2]DY%(ZNY]<[CH/(^$8^DAHn:(=c^%EU[%AD?(AJ]3?
 cRR]%AK[9]GAF$(YU^S[GO/(Zņ|GHUNN?²@Rņ[+XHEHpYEHĀ;)26;)-dGOn:/3:,FdDOACHÛǄ[(Vc:1'BkR?(@½HvZA:587]&.
 1Ă¶ĀdŷƗ¬4ŷÜ/%5Ƞƌ¬6ŷµ:*7_ő¦Ɨ|ðLY¬5ŷƛ§TAH$+2WAS(¬@FBD3,1*NG?TXU]'2U|^'.OE?x?YU?%?U|;JBV;+@KIRGHIZ|O:
 S>dYU^n?E];YɫUR|KAZAKH|:/+þĆKSU!|<(07>(/1ƆYEH;:4pþ^028^0.7AE?%?Ź[%?%MA%+@YU?%?:(?Ư%@/<?+$;=]A0<+29
 <%/?4/>F=1*FkSI?-'[³K?KSJEEM:+27HA$-3M;&5[8>]2//ĳ-%-<4%-5K].wT].P].zH^.?>+e?*'pHAH<+EcHA^/PcK<'@[>
 GcSEi?FucSAD]9PDAD%/wTAH%/PZAHp/Q7m>HQGH>'TF?kO?kzȯ]>,<kuKAF]ä<4%96$9HLv?:tLv>FM>FzǄ^.N^.zņ^.M^.zH
 <k/?_uY$tQ[áznpɻ[l6rH>&9<.>;'HƀDApDvMte:;3KASR%%6FtH?73$)(;?3AS:;4>0Ac]Ğ=rH|<ĸ/ZAm|À?G,;$/ņ>İ<À>H,
 <Ȓ1H/-84/-zcT/->/-zH:-6:-z/ê3;';4<'3ȯ<'K^Þ7[&0Lv:63]4WLvp](34^(KǄM]1:>*2cņ/I;/Iz>&/pɻ%33Y?W<;1z;Ž9
 Ư:Ž,>$1K>$4M]'4HE%&)<ɥ0^+;4^+kT^+xƯ?¤3%'5:Ű0<.2%'/%Ű7/'EK:'RSEi<;l[ŭ-:7;[(HDAD/0sTAH/0:ZA<I<Am]@OG
 H;'RF[^n^ŧ6:UFAF>.`Lv%0=;ŝ7;szǄ$,m$Ŗ8>3zHE]xI/Ĭ:Ư%Ĭ-^2z?Õ6$n.^ȍ/7?''Ś?Ð0^&:4^&4T^&OH$'NSEi$'MH%'E>
 o6(]&2<(+>j0^*:ņ;-LY?9N:Ū/FAŽ:'1DvM?$+[ť.^C2AH[ɆD4;Ɓ6Am$(XGH/(T:O-%(ZH/([H]<Z[x'%(XK:-[SAD$(XDAD]A
 Z$ȰyR?P?>%5SAD;%;D;%=TA?żSAm<'RGH?'N/8->'TH?'UH%:M:e.>'RK/,N/d-<'RD<'M%c:À]b-À>b,^Ɓ?R<K<:%,<a,%%8D
 %%9¤^řm/16;ă3¤<%=T:ŏ=S^11Ś]10<$0Ɵ<æ4?(aTA/ð;Z:%<þpFtHte]D/5?¬0hyNts)ɎIq1o?$//ύ,Ɔ!HIMAHU|n(AHc!DI%$
 *U|eH,4eHAaeHUM<#)/$*NNAcSnL%',(YHI|WA-AnIH,;$*AS-SA(v<$*M>$5AA[$-^'2tU|W>%-QUDDISA|SIRRÁ<.*;.0:.(
 EE:/'SnL;*+$,0ƚAA!KA;&'TAAA(a:;+M;;+$Ƶ0pM;g8]x97>&06:(6KH^b=^ŧ?6^qEc;3.?ƻ/?1<c]/0p%¹26]¼3:z6$ƽ?/ǈ6
 /+D4:4J6J;@5<G3?ǀ=[+F4M?A0$Î;>@0$*>J;C3^P5K]8A/7BD/74/C<K;3=:Ǐ4%Y6]hP/Ĕ<J]B4:EF7[W=^Ę;^)=6%12$*/]ɛ
 9;?Lȯ;?:$M;c([&-$3Y;[0;w;7;RO;wRc>&0]..$UJ;¬:>ÆE^,Q@FD92%,/Ɵ^ǘ<;Ì@/ǧ:<L6:¾KJ<id4/ÑM$ƻ9$gHB>k/^,7%ô
 .$0T4?*4:9p>ñ@^^3;ÅD:(-$ñFK%*D?ä5Y$Ŗ6%&AD%)CLv:H6;A=<U3<+9$ëE?*=M]FEȯ$&B]t0%)K:ɒ7pH?ɯ@?/BK[2NJ[/5[
 >5K]LH$33^/4[C1<)F/3E]/0/%'/FA%%,$U?$aCFEH]BBB?a.^HE;O>?B=%z.?)E<§1%S<<9B@FDCF,SA(vU/Ź*NAA%%'F0,Sn
 (|US¡AS|Kye#|Sġ&]Ƕ2QA$'Nn(H[$3KBk[$2MOHvMAD>ȅ4[η5!SOUL>*3(YHE]$2WASnLv?*5([$6n(HOU|])*>(+,Jn(JA(=U
 HOUh.n&,]ƪ3BISMI$9(k-!HMe]#*EEMcŘHAeAHU|WA|:Ɨ+AZZA;$'JnLhιƓF,PrSiT÷îƻŒĩ4ɬ#|ĩ5Ķ4ƣɽǎƝ)ÑLiT#ɣʋlo[%8KC
 ElýΘIq@FE20ȩƆ)õco$$)1_ƾ/&.d/&/MACRj^(;CjǊu|?&),<-5|ŷo>$/1ƾ?&F$/+[&E%06¦ə|TIT=<89h$RBͱ|zAD¢4EM|Ō,i?
 #)ßǆźY|/$,)ʙ>$1)ǒY>Q0[$3)ʑ:'0>%<)°:[;[%>)_eGz%(0;%:)%'6<&7Ǝ>&0]$3^m./'7;%9hSESvsķÑ<$.[OB)ɦl4o^$2hŌ
 ¡ăǆąrȳă/S,/$-_]$1;)*ß;)3?Y:§ĩ1:µ5Ķ@FE54,ɽƣƝǎ[f*^cQ^czŅ&,Α,ȕǤ,ǭ-MmUqLã-THe&,ų>$.ʆ@FE68,ʗqDύ&,χt<('7
 0>Ɇ,FtH<Г61Τp:&+¬;К:ŗ|F!GMil>Л9;.(6%М7c>Ӭ0DvM$&A[+'$&AƀD%&BUKUN$&@*HvZ[)3*þpM%-';յD4HvZ<&DcŹp:'Jþ;
 '/ʍ;'?YEH[+D^ՁHþ^Տ?BEH^ՉN[ϓ1MkBUTA%Օ?;%1%+IH:0P[ɤ1%(XHA/-YK%([Dn?G?TH]%AR/=?cZAm]%?SEi>3XSH/(]AD^=
 Y$(ZT%HZZ$(ZAI;<YGH/([F%mZȯ^gY$(Z(/wYM;¢[ņ%(XH?AZŹ[s?;Ί?>&/Y<.Y1ƆLvp]ëG8:+.6HvZ<&E7$æ7ʍ|;&.5:Ô<@FE
 FFhȾ|ɢƙNO-BrAKȘ@FF01,FƖ[%)ǎ1μ<İ4Ϳ;ſG?Ĵ7ψǑωȦ?ľ;νʟ,1)ɦlʗqo:&3ΐą[Ƥ-ŴE^$+Ů;2Y%Ũ6ȁ;ũ8į)Ñʙ%%6hõ[b)ɬ#|Ķ1/
 ƞL]ƃ5ɒ|Ä¶c*Wf*§a4gU,bfYaɡfTU,1ɒ-HI!GeA|òŇ¡SĴÐ?,-*Ad%*+KaKgKñbKfSaſùbSfŁgTĿbTfƅgNĈbNfơgHŧbHfɑgMŦbM:
 2.RaRgƭRbRfWaNcVO#^10>l(-$%51Hʞ|ʛc*ǇdͷǇ-SIOqNǋN<#)-CǋC$$*ħH,ʒl<((ɥ<#)Ʒ%$*MǋM$$*PǋP$$):,(^#*TħTH:&+
 ħP/$*/-*/))?((?-)^#(<$)?));#';%)]#(ű,]3(^$)^#)Cτ,$.+<-+^,)@FFC2,aAE;F(AbEfE$%(aδWaWAbO/%(D2,YfȄEfș
 gYU%%(aEťgI/$'E0h;Ð-ą&,1PȎȓÒ&,$Ț*Bɿi|ĜYi&,Wj&>*(8/s/îS|ĵð%s)ǝáUP/$/o<$/~;$/®ıÑŞ?9(F9hǪík|eÒ÷eCHycł
 ,¿MmtyhOBJECT|rʀǃʐ,^$9"

end Wirework.Text.CharName
