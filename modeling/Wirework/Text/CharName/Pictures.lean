/-!
# The names of musical and mathematical signs, and of pictures
-/

namespace Wirework.Text.CharName

def pictures : String := "
 @1DɞBYZeTmsΧPSILIdDASEIaPEϏgOXEIA|EKFjIɄj,4DIPLIdVk;%;KtHIxgSYRMAɄgPA!KLIɄgYPOK.SIS;'-rMAxgAPESO>*
 0EX;$1TEzIaKiTIMtaAPOxROFO%*-SYNEVMaTȵaOLIGj|kCHAIj,Gy;$0ȍ±v[#(VtHY,IS/&.$-+<$3t?$.SAX/0)Pk#Hj,xAV
 ROS|APODEXIA:A)I>'-Vk<$1[&(RMA>$0ĉMaK(SMaR[6(PIAS;&/TmAGMaetR#HISMA»>#)YNAG$'/4ǂA|/1)UdOYReI%*0:-)
 zMOgDYfT.aTãERaK![9)$J*^H'NEfFTHy/).IMI?$(aTȋIK<A0tAVA|/%)ȡE(x$G)FIxj,KjT;8'±OrV;1/!P^2'/Y)Az$4/%[
 ./B.#HADm,NeaPET]?']+,|n=^1,/$)x!GGISMtaGRjTH%$)[S([8'<Y(^#)]M)]#':+(xgKOUF;''<$*O;$*]?+O]%.(x<)):
 Y,])(|e>$+;$-Y:y([h.:%':$-I|SYNDESM/%*YPyROI?-+:$)j,E(FR[h,gMIKRj|IS$`)?5*]Z(:.)%H+]8+Mnj,eɄiOMaLY
 ;>([E/[&'%I,<)+E¿j|$%-aKYL:('$*,;$)<V-$()KxrPTj<e)%**SYR?T,]++PEȥ[i)?-+XIRj|K(^*.$6(%]0LYG^-.:$3/3
 .<'+[$,<&.:1(%&-;$,GyG%$'ĉTj,A/$//<+]$1?w(?4+/w(tI%N(ESf4EXOdĉ$d'P=U;z(S|KAI|]«)S%s)%9(iDOFjj,YFi|
 Ktf4eOd[§)q]<)|ef[Ä(<y.!$¾14nLfNEOd%·+[^*LI<((gTR>#)ETR^$(KyjIqzIMMA|iOSļRjOU,4DYO%$)j,T.j/$-ãk<$.
 IMISE;(-dGyGj?l,4PArxIGMij|A.S¿a5$Ê(dDI;')?&;><)6eO>',TR?'+kG].)DI^#)?#+AGOGIƦ%?(Gg4kGO¿gkGgǂ.aMES
 I%R(gGO^%+['(]$(dMkTY.A|òTOS|#HOS/D(I?$1DEY¿:$,^%([$2T.T%$/FjIAS;G'k/%-5zGE?,.:$1P(GI/$+dISAKIA|TE
 =U]$(IMtOS<².<%5Fe<0'IS|<R(%/*4MjO$$*D$1*%:.VkY:0,>9(VkY>03;51dGyTH<«*;k+5DI[#(dikXI>l)$å*VOU]L'Fj
 ;å.j]ç3;B+U|#H;b(ItjIKI|Pa5Nea4NA;/,[%-DgSKLIRj|]$)jē^%.Kb5ZfNI:].4MA(K>h*MA|%=,6$?-dFHTO!|>+(^&-V
 ASIS;4'<%6SYNAFg4NieOd$%'A|ZYGOq4Kňj,SPtHId^(*I|YFESI^C+IMO.j,4ikMj:F'eT<1)d^&+.[&,DI?$44])1AP<c'Y
 O|DODEKtaMjOȑMOS|>Ď*>%-DI;%+EX^$-TR$%,OKT]),;0-/,54:,qGE$M(?8(q4?-)dDIAxOLI>.)MIKRg5MEGnI:ł+ĉSEOSd
 Ȟe>2'>$*<c'ȞOĿR[#*[o(^#)4k:&Dd$5*A|GG%s'TOGG$4'U,xIGMakKɄO|Pa4^j'GaDgKb^_(d%đ1MESf?$)<$./&1Kt?$+<$
 -]Ý*$$(;ŕ*<%,wD1¼ΧȈBkíc_;$+À/$+rȚs^$1ŌED:$,Ù/$+)rPEt&,o>$0$$*¶qDn|SEGNfDA|Ȩf/$)CODA?&*¡FIGUrƓ2,FER
 MtAdŷBrtH²CAESURaB!CbʋljE-ȳxAFF,·:$/Æ]%0µ;$0IV]%0Å:$3xRu|FrTʌ,µ^$5G|CzF,4OT^Ř(nTa5ǵSAcC<%)F%&>DRUM
 [%(ǺwD129,ʃLsʫsrSl_SHkP,_F(lFLtéd~cNtURn>$.>'(;$.ǣ|Tj/*+4FLtcǔMj|TIMbCUT[#)[3.d[3*QUmD#EȞ:%2%4(%3)
 WHOL%4*õ]#)ǣ%$)ÃH$$)ɋ:$+ɆTY-SECjD$&-Y-µ:&+Ǩ|TWiTY-<*/X|ÒEĎ,ČS/$-Şs]%.Ģ;$+|ɳb4°cŕ]%-é%&*5°,4)ɳb)°,o
 $%*o%%*~](2Ŕ%'/6°cɐ?0C-RĴ;&-<+4cɎI]:.VOID/$-[#+[1*NƖ[>.LUS¿</;BrVE%P*Òbõ]#)ǣ%$(%P*$$)ɋ:$*%P/<5*%P.
 :&*%P7<*/ŶxEMdSPrCHGESA?$+TrMO=Ɠ2cFuEƜ$%0ŶAUGǃ÷¶dF(GƓ4cBEGm|BEv,iD[#)[$)TIbiD?#'>$*SLÌiD[#([$*PH!S
 biD^#*^-/CądxACCtfTiUTf;$*ISȞfMkCt?#,-%',?();$-=UrckPEGGItO[©.ŶDOITdRüFLüSMEk,BiD,_ͳƘͳ2RmFyZeDfSUȺ
 fZ,PIefMEZZfFyTbCrΕfDE$$-G!CsÒsɊ4NO|ʕcTR,Ǡ,ÓǠ,Ǡ|ʕdUPcyNAǃ|ɉEƓaHAUPTxIMMbNEBi$$*Ǐ/$*DEGrsɊŶ~|ɛdUP?#
 (HkMj#,SNAP|PIZZ#tOcPEDnÐdUPÐcŊ:%.GLISSeD]D/½^])NȻqDvPdnLcMAXIMaŇaBrVIS»MI^#)|¾d°cMmIMA:$,>&'?$)>&
 2FUS?$3ŇA|ÝFECTA|rxdIM<$0c?-*rx%/(;$/>,)<%-;$/TEMPUS>++ɶCɶò(ìE/%+a6;-,a[#+ēMmUì-1dIM;)Q7?(0+2cCROĖ
 GrGyĦ$û)dF?#(cĢB,VIRGaPODtUqCLI?E(CeD#<$)MACUqTyCULUqPyώUSdFzXUSc/',|FzX$'-%?(UPmUqPES|ŘPUNCTIqKIE
 V?0.ǏPIECbÀÒbrCITtƇÐ>ÈDsxEM|~,6UPdÃH;%8FLt&cSygKyjwD2¼ǍVOC>/)AìæǺ7d/$*50,+4,1mxRUǃ<':;',4%$'$$*7$$
 .11,+3%$,7,+2%$+23,+4%$,9?'.32]#,6/&.42/&.45]#,7,+7ȩǍ?Œ+T.SEMEdTET!^#(PiT]#(h^&1:ǥ)wD2E0,MAYe|ɩn|Ⱦ
 cjbΟEL^$(Π[#)Ω/))TE>)*ȫ])(ȫwD3¼^Ɗ+ƻEkÎDI<$,ɭViLY:%)cHUMe%$*<#(LY/&*d<%(c$%(h:=(<),ąrcFƖ|ōMIRöBk.¢K
 EEPu|ú,Ǵ!.EĕASCilOPȰ,BReCHu|OUlDEFECTIViã|yēxyT/ƭ)ŻGiCbYĳHFULNESqmCrASbPiETRèrAěǴAClHÞu|ŏ,θFOL=Wu,
 ADVeCbrL>)(rSIxeCb;$(JǦǴiì,iDEAVOÌDUTIES±eGbDECIS$4)qBÞ|rSOLUTIȡŠu,zGIj,Ȕ?&)KmSHüGAĉƛxRiGÎPU.ĕFUL/
 8)rȊiCb(W|y|MODŋrSPjSbGOuğ|ǄliCȎ¿qxOVbGrt>)(iůEMilPt¿N,.TUn,Fŭ,VAx/F+WAxu,CjxeCY,ʫbE¿NIĕU<#(DIMmĥM
 ilƏMOUÎGUkDEDNã%8-|m,MASSu,ACCUMULèEMǕL>)+ǲlWtěSmKu,mN¢DEƮURbDkKiu^.'Mu,EXHAUSì»ŻeCbSġPAGbHk[/)ȸzT
 >G*:6(FȻURbAGŴèȸLIeCbjƹŻGbDIFF#UL%R((Bǧ[Y)S¿uwD360h]F(u|ROD|ƨT|ɘjb4ʣTiS/(Whɬ#|TnLY|ôɏ:)6h:&1cFƇwD4
 ¼MAΣ]g(ȨITn|AdB,ϊcř;(Z1ITn#?.wwD456%/I?:(>/2ʟdř;(Z1Ƭ?.,wD49EdC,DwD4A2>6*A5/*'^#)9<*+:$)E$=@?)+BB,F
 [#)D:11wD4C5^=@Ƭ^=G^=zF!KTUR;V0wD507;Q/50D$*3wD516<*1]$)E[dbǲz-xRȂ^053B^0040[*-<$)6,O[#)A/1652/1;]
 fN%?3ʟ^fceͼ?¥g;([BÞ>:iʟc:°r/:[%/45?)U4ř;(Z1MjOȭE;RO]àz§ɗg4JwD6A8,1<U0nƂdƲaGvMaƍTaEȍ,ZETaETaĉTaIOTa
 KAPPaLvDaMĈU,XgOM#RȡgRHO/')¥SIGMaTAĠȍ,PHI±gPSgŬAcNABLa§n>0zÀ^/(<0IƮInēFFERiTIn%/+æ:80%/)æ:*'æ;.'¥P
 Iæ^I+$GP$Gz$Gz$Gz$Gz^k*<G84]9N<Gzd<G->0V<Gzd<Gzæ%õ0BÞ]GQ]Gz]Gz]Gz]Gz]l85:9O^Fz4^F->0W^Fz4^F,]lz]k/
 ē:8(cř:$,wD7Cbȧd^ȝO[š3<)[>¢//)]cBÞ?(/4?(O/Ī.].]hʤζ-FIx|ƈ,1Ɗ-Ç?$*>$)UP:$/OVn;$/Hu:'0eG](,$,2|Bil;,.
 $%.^&.THUMB|Ǟ^%.cƈ|ɧKNȂzdCŤöHuö4=W;56|HuE$04ȏDz/0//%/:';^/)4;/1S[.*dŔÄHu$1,|ÄâÄCjǊö5^7.$,/^62ďED:7
 7Ä$&*[3-/3/Êƈcƈ$%->&*dÄ/F(<,7]%/%=;x!ɫ>L*<>*Bi<$*]%+l]%->=+SPrAD>&+ǫ<A4>%07;@,d>C3>&/]$,[+1FyWkD,4
 :$):D*5Şöė[E,c[2+TWEi^88lƈ|?N1/3<$f)?A/|;-);+*âƈ<%.;7/d;,3:=5:V*[$1:'+]:35CŤ^$3cÄ<=->14<%.>10/(0Ş:
 (/6:B+%)/Ƴ¡ĳ<).5m/$.4Ş<,/%c1?;4,5[*,l6cÄ/-3^0-7ď?w,éc[F=Hu;w,FLt|ǱFmȥq4]f.,/Q-5SPň[r+(W]'0[4-^r-^%
 :>o(%Ë.<);;1.Ƈ^%+:k*cHEEL:%8[$6|µ]-)^'(%&@](7;(A^'5;z8??+UP?385Ą,1<<-?,8Ą;é,]/7;?A<Z,6<r.NO:2)c,/«
 +PnM|ĘuS<9(,:'-;$(:x.;À.d^u,[U':a*^&.dąRb4[$.6:()ňTz;Z.c^17]A7ė|ǒ#UEc]C.Ąc,Ą//.?5/ç<++:,-Ą?K1$.8>-
 +<,*<á0<I-:5NusĄd]%0c,ú;5U$&.ğUCHu|ƈd$P+ÄRu;/*eG>ċ=ƛ/8.?%;Hu>%<eG/(CňT%/A:])5$¬-1^-?/¶7%,)s~,4.PP]
 ï/5ǳVö4OũS|Ş;Ġ)c%Ĳ.:)*é[Q0$%-?R-[$3eG?&/^04[ĸ4Bil>L(ES]N/,1>?4[%)<*4>w/;D.?%<Ƴ?%7$$0OUl7,1[,9,%<6ƈ
 <.;^-;?R9;U1Ç]%=Hu[%8cƛ1$a9>_BĔ;/CĔ?)4^`)~[1.]$-|?ÿ3$**?=-$'/Ä$I.Ĕ$-2éd^Y2[0):d1Ru$3*<d-^$-%/5%79/
 3+4]u-:.1Sdƈ/e0ė|Ru[ś9%-5Ç?%6:Î/]%5sj,:-,[%7Ul5m,Ǟ<Þ-[&.>Z;%>:$,;]o/Ä?S2^@+>&3é>:/^$-[&2?®6]Ŭ0;E.;
 ž:$%0/4*d?#*?8/1$05[G>Ä]G2^C+[%6%<5%D;Ä:M75$2C%ƿ/(W$&7[e-6/@2%'>>Ş+m,6;æ5^Ī*<h3<I-$:/<%4^'=[J+ư,6%
 ƍ1:ƻ0BOTH]#);0-b4?đ*|ƈ$ñ,[ĭ*4ė,>M*bǳV<-+mȊ%İ//10[&1^41?&<Ǟ,4Ç>w3/c*4Ą,1<>:Ą,4ůb4,ú]Õ/;ê44m,4,1$ǭ2d
 HEŋȊsư<¼/]Ō1[ƴ6b4;U.%p/dǞ|·?Ƈ,OV<$2Ǟ|Ü[$+4]ƀ/ĬǱ:É2c,%4(1^ċ(|Suzcʃz[2+,1G!SP]%>x.KE^%>BRUS[+?RUB>+?
 URĘEæSc:%-ɍEZsů>.-ú/$+ůs?*,ú:$.EQU]Ɏ*1FL#K[)h[0-<*)Βu,MOVEǃ?_*Ŕ~|[^*úd[)-c~|<$.Ŕ~?*/>(*5úc$Š*|ȊsSC
 ISSyq1$.,WnLPLe^U+|^Ј*%1-F=y%&8/)6Su:ȋ/ú,4ó,ů<?*xdW.x|FzXc_%(*>%1]>/4['/ď,Ʃ<-/?0*%)JBiD|úd%2/cƎ<%8
 ROTè2ɯ[(9Ŏ/%9ʡ<%9PEAKS;%81T!VEL%D.%/+]E4dǲz:9/c/'+:M):'EÈKu,kM|ȇ!;i,4ǲz:E*>X.ư|AWAY^4+/Q7cTOǝ:&?[£
 ,%*(;XA%**:&@1[e1?bx?bz^%,<c5,>a=cɯ,]^z;@/?YS:c0^^L>·7[Ą*ǣ;KAõ-Ç?&AÆE-ǣ|<'05ócHUMP<?9=O:%9§ǲzcź/4+
 _]+*?'04Ʃ<%9c?ě+i?^-[$(DĔ]721$E<c$E2E$D8>F*^-+ȵTu|FRjT|WnL,/<'%%7=O%%8WA<)8<2=%'7c_;%5$X/[%6]78$71
 ïx^O)[$2=O?$3WA/(3:5=^+4_^$0;4/:%1^38źsư|PtH?V7$¿3;98EILu?(+ůE[:)%&4$f/[&*/$+§ƩL;r*%$)/m)[):^_+5[Ħ
 .:o/[)+<p.[3C1?µ<%(4c_%%2[F/<%3>AGF=y;A6^%1/A?Ƙ]A06^A4:*2[A]^33>AK^'2c_^$0<w9=y$A>^ć@ǔBmED/Ì0]Ê-[w
 )SNAKEdú,/58/À@<O6<À0|PknLŋ]w6kM|Ç>G14ó?G8ó/$):z4]*1%C.WnL$,16$,1^Q=ó/S7%±9.x|Ç%Æ)$[,:39^'.<34^2/ǲ
 z:Ű?ÇS>@,%-9>'7:-ADYNv#|Ƕ/]+$z*FASlSLƃTiSbr(XöȞULTeEūdΒucEŻY|Oũ|TIMbG!DUn,1Ďc.M^U5?ĺ/ƿTc[61/&2?ç:b
 ]'1:%7|ō1ĘEērǓ|Ȱ|NOSs%ǫ+ƿTu,5Ŕy|~,8]$+1EYEBϑS]0,édƞ,~,1DrvY|]&,ƞ|~d~|ƞ,UP^#,ƞ|â1FOrĎ|ƞc^Ɯ+WRmKzD</
 (S|Ąc>Ʋ)öȔ<%)sBLmK:Q*dʃz$(*õ<(*Wǫ^#)Ŋ$)*ɢi[ŗ/?*)WmK,EYE(ÂSéc~,FLUT¿;=+GAZE;O6>ŉ4:'/?K);'N;R2ö?)0:%
 0>'5Şu,ïEKS|PUFFEDcƞ,SȂö1TiSs:&*ǯd$ǿ*Lƃ1Ekq:W'[I<qWIGGzq1Ĺ|B=Wu|ĳcSȂu|m,Bßú$ū,S$/(]$41BrAƙmHAzcEXH
 A:©)UƙƏƞ[Ȑ->0*cSMIzd%X,ĄcFϑN^$4çÇ?)-/&-Vn,4:$,YAWNdώeGz:%2cKISS:)5cTiS>+-/E,LIPS|Pr%ͼ)OGEũ,LIP|čăé
 ÝcŤ>$*>%);;+ƎSc^F+>Ƅ31TjGUsx#K^G*|FkcL<$*LIPqTIP[Θ+<$(d<ȡ(u|mȊs%-(c/$/|>Ã+]o'S|AGAmx:X),ąR]-1d>(/>
 ]'ę2<u,j|ͳ4[$+d]/';$-cȺE[1'/Ȅ9JAW?Â2%%-NECK,HĹ,EXCITEǃƔULDÖHIP|SPmEdȰq1%+-?&0MOVbF=y>%:^*-ƿ;ű+M|WA
 ISlTySO?¬6|xrTCHc^Ə*BiD,1/'(>5/TWIxu,<S)BODY:,0%/(ǊTqLIMB|ǔBmè2ʭƓ6,1Fu¢=C?ŵ2Ș=C?ģ.:%7|HÃcɢÎDEPÎĎ|;
 D';8)%/(S;С)q1ĩĶɽƣɎISwDA9B,ɮ|MΦĞ+4wDAA1/Ȗ,?%0EwDF¼ŮFiGȪpTRƠd³ƬG,1śĮG«³K,śLpǕT«zZHpȌɱY/(.³iG×RpàzG£
 Ȍ,Tĭ[%71*$%-CL#KpȌ«Ěp_Ĝ7eD|ǒɱTǼ,1*ÓǰǼc^j*¡CǼ,[F8K,1ĲLpȒėόpPntnƺ,:H.£>%0iG>'5×R;%6R;.1;*5TES]/?EZ^$
 7?4.?U9IĻ$O7OpȌ[/'^*AC$R9ǼwEɞŶG(GOňȴAZUdBUKY,VEDb^%)gDOBRfYExȃHƇTE%*)8,ZEMLJaIZHbƯ%$(gDJERVgKAKfLJ
 UDIJbMYSňbNÛgjżOKOJg.Tſ=VfTV.DfUKU,F.TU,ǌUwE01B¤ŁSI±.VgģYERU;#'gYtIwE023,YU,§YUS[$)6,YfIOTt¡<%-BIG
 ?#':%,;$+FITAwE1¼NYIAKiG|PUACHUsHMjG|*Ma4TSaNŁīNaXaNKaCƑSǹNCaNTSaKaDĝaNRaVaNTXaTXƶRaQaYaNQaPaXYaNP
 aDLaNPLaHÁMLaPLaGaRRaaAagU,fOfbEbWwE130dTjE-B,>#(M>#)J>#)V>#)S>#)G>#)D,ʤƻǥ,5THu,=CèeIMn,]©*BRtb4XW
 |XWdȝʭiERwE140,>һ[[()EdΨ|NYAJ,ĐCAwE290hTOTO|*PAcBaTǗKaGaMaƅGaSaƐYaWaJīRƑgBrtHY|gIU%$-U,ǟ:$,bEO%$-f
 fA>%-AbAÍ.Suğ]4)2C0hWeCHO|*AAcǘCǗGaYƵƑNaPaŁHƶSaģJǹWaVaKafAU,RaMaKHībI[7(U,LLHaTSaTRaOÕAĸĸu,j,i,Ae$
 _(Ui,YIH,1ŖTUPcTUPNgKOgKOmg1ʈ^9)FF,1NGUN&wE7E0hEΡHHYAcHHYŧHYg;$'A<#'EE<#';#(O[()8,GU!GsHHWaHHWgHHŸ
 <#'%&)D%&+MWIdMWE%%)F0,QWgQŸQWbBWgBŸKWgK[#)bGWgGŸGWbFWgFŸPWgP>)*8¼MiDsKIKAKUI|ȝM001|KIdM002|KaM003
 |KŦ065|KEbM095|KbM076|KOfM048|KfM179|KU>'(4|WI?#'5|W;$(6|WŦ126|ŸM118|W?#(4|W$))5|WfM194|WUgM143|WE
 I[-'1|WVI%&'9|WVaM13[#'E]*'7|Mm[#'8Ć[#(9|MU[#'59|Mi?2'4|Mj,M154|MUA]#'8:&'>%(10|BI?#'1|BA?#'2|BU^&
 '0|B:8)7|BbM103|BOO/.'8|BO[&'3|%((4|$((5|Ŧ163|E%'(0|E:$'5|?'(47|:((7|EI?#'1|m?#'5?#)95|e]?'8|<0)9|
 SgM020|SA?#'1|S<+(2|S[?)6|SE]('6|S[?(79|S[?(6|SI>'(5|L$)(6|L;$(7|LŦ084|z/K(3|z[='4|L]1(53|=:+'0|Ň?
 %)16|D]7(7|D^7(8|D;)(9|D</(80|D?((81|DO<,'2|T^-(3|T^-(4|TU[@'1|TE/-(5|T;=(4|T$4(69|T/((8|J/((9|JaM
 030|J]F(7|J:9)3|J$B(0|J/()3|J/](5|Ň%$(031|YI?#'2|Y;)(3|YU%-'9|Y?.(80|YE[G'1|Y^3(21|Y/((4|F/((5|F/(
 (6|FU%>'8|F^>)5|F$E(3|F?.(88|F$E(7|FUA%,'1|Fe;('7|NI[#(8|N>$)9|NUN$5'7|Ni%5'9|NO[P(6|H]f(1|HA%A'6|
 HU;$'0|H>^)6|HE<$'2|H/3(:%'?.(3|HE%Y(28;%'U$C'3|H%Z)0|He;&'7|H>k)2|HE][(3|Hj;*'?,'A:m(0|NGG//(3]#'
 A%('2]#'U;3'5]#'E:?(6^#(/H']#(;@)>(($X(9>((A]$'7?((?)(6|Ň/(+0:$-%W)3|Ň%),5|GI?-'1|GA$>'8|%/(90|^.)
 66|GU<9(67|G%£*4|NGE^7(]-';B)]#':7)68|PI$8'9|PA:&'0|P^d(1|P;`)1|P%1(2|P%Z)6|P%D(5|MBI<$'2|MB?6([#'
 ^H(7|MB>j)8]#*07>%'bM1[#(O%a(4|MB$8(7%('U?3'1|Ň]&*05/$+<N)2:$,;L'2|K^3)2|K$4(74|KP>.([#'E^((8|KP/m
 (:&'O>@(?$'<H(4|G<4(56|G<4(48|GB<w(3|GB]()7|GB;4(1|GB::(70|GB;4(1|R<9(3|ND<[(9|ND>$(5|ND:H(1|ND^x)
 9]#'<>'7|ND^@)4|ND:0(2|NJA/''[#'U</'9|NJE>q(4|NJ[R)2|VI?#'5|VA]''1|VU//'3|V/C(/%'%_(4|V;2)7|VfM1<,
 'YI]Q(8|NYA]Q(0|NYU%g([$'E?R([$'jwE8C7cέŶŅ|ȫq4TiqǮqƪDqɇqǮ>$.ΖSwE9¼ADLvƼnIFdDAng(v,MIIM,BaSmNYIIYHb
 PbBHbRabFagfDHaYHbŹ,NāKşYaU,JIIM±gHaQAşGĝaTĈHaVaǈGBbZn,KPfģ1ř;0^;0znIF>ś/ɀ<$/GEMmƤHvZaʜ|MΦ?&+s<%6N
 UKTaNASnIZƤ[J'5ʠ[()b1Ưǎ2ʘ%-,C71hmD#|SIYAQ^^+ɏΟλ<#(ς[')ĕÃY$((ĕǨ,·$$,Æ:%-µ%$-IV:%-Å|Ǯ]+)/$,Ã/$,NI<,.
 jsƪ?-(%$-Æ<%.Ǳƪ^-*ƪ$.)ƪ%.*:$-Ã:$-NI/-/ɇ%?*;$,^?*[./:$/>A)^.0:$./C+:/2Y;/1;$/(KH;#(ec(KH²Ņ|KkydKkye
 ,PrFIX¡jb4ʣʀHÞ¢ȶξdɹScʥ%00Ƿ].,ɇcǷ>5,wED01hOTTOMe<gi<gz<gz<gz<gz<gzcMkRte,ǷŅ|TWf4/QLµ?G6[B1^_2>h0õ,4
 ÅTHwEE¼A!B#ĆΣþcBÔJEĨDn/')5,Ź,ZŐHÁTÁYÔΗ,MEĨņ»i,ŐFÔSøQşRÔÂi,TÔTHÔK;)(Hn,DøZÁGHŐɗBEHdņ>)(ȯwEE21cƯ$&($
 2':%)4,HEH^#)7,HA^#*9%2J]+,34;27;%)9>2'^#)B]2)wEE42cŗ¡^/,47d$(+4$/'^#*B,($&*D</.[)+51[/05[/)<%*7>/
 -5>/-5>//5D,ɗņ[$)F,4:*+61?ɾ./@26/@-67%O1>(+C/@G7/@=79]O<^%*b4F$$*80c=OP¡þd%`/<2']_6:(+B%`l>B.A1cǲz
 -xRȂ$@);m0A5<0=A<0xF0cOÝty|ǄMpHAHpΤd>$,DnwFɞMAHJjG|ƿsEAx|ȿcSĳH$$)WE^$+Ny]$+ƜD!Gj,Gri%$+¾%$+jEǛʐq·>
 $2Æ;&3µ?$3IV;&3Å>$3EVi[$2Ã[$2NI]03<2+BvBOOq·:$/Æ]%0µ;$0IV]%0Å:$-]0*<$/Ã<$/NI?./$0,Ç$0,Ç$0.Ç$0-Ç$0-
 Ç$0,Ç$0*<$/Ã<$/NI?.1PLÚyCHID,]1)±RYSeĉMÚSPƛSUMM¢AUTUMN,WmĊJOK¢ŏwF030hDOMmO:])ýŏcŜ-00-00,+6,[$/1[$6
 2[$63[$64[$65[$66[$*ð$1)ð[0,>$.1>$42>$43>$44>$45>$0?/.wF0A0hP(Yu|CkD]>*ACEËSPAD[U)/$.Æ?%/µ:$/IV?%/
 Å/$+:U+;$.Ã;$.Nm^-0$'0JŠ:$.KN<(2ɍi^%/u:$-wF0B1,]6*HEkTq·/$.Æ?%/µ:$/IV?%/Å/$,]6*;$.Ã;$.Nm^-0$'.]6):
 $.KN<(0]6*^%/u:$.Ɯ[k(wF0C[7,ë^7,ë%8.ë:8-ë<8-ë?8,ë]8*>$0Ã>$0Nm;/2>'0>9-ë[9/ë^9*:&1u<$0°<:.D<:,CLUBq
 ·%$-Æ<%.µ/$.IV<%.Å%$+]8*:$-Ã:$-Nm/-/[&-[7)/$-KN%(//7*[%.u/$-¾?6*FOOL,TRUMPǺ4wF1¼ȧ|ʅcĩ1jsĩŀĩÜĩǱŵ]9)
 ŵ>9(ŵ:9*ŵ$9*ŵ[8)ŵhDuBt|ĐSeͼ|ȧ,1ʂE>&AȽȾpɊ1eT#ʬEáDǩk&pă(ID|ŏʕhɎIZ¡Ȥʟhʑ|ʋT$,;qĐITn#|ȤC,5R,1CD,WZhɚYû¥
 ċ[4q1HV,MV,SD,SqPPV,WCh[I1%-=5^>VɧMC&,1MȓMR&ȽCC,1C>M<HUMe|FIGUr$3.ċ$3rď¡$,IP,>&4#cPaSaAB]B(ĢDJ%M,C
 L,1COOL,FrbID,NEW,ÕOK,SOqUPpǎVqÜDΔ|SCri,ŀK,ǱK>z*K:¤)Ū|jE»Vi;$-;ǒ*-·]$*·?ǎ*P,Ǩ|TWi]$(ŮD,HC,HDR,HI-r
 q=SSLã¤V,UHD,VODhMASK|WyKæwF1E6,rGIjn|mD#tyæ$ybĢHI!GeA|HOKA<E,ɒ|KOKOcSAwF21ƒCJK|ƨFI¡ɬ-624Bdɬ-5B57,
 :$.3:c'ɒ|Db;)94E8C;)091A;).89E3,?%/29,<(/A4,:0.620:$.7121?%/599[)/24D:$/F8C:$/18D;(0B0;(01D<,/D42:
 $/51F?4/CA]-08F[)0439<,/F1$60295:$/355%:000:$1[)/904A<,/DE6$'02D%J0F3<,007?4/D70>0053[8/981:$/A7A;
 7008;(/E8[)0709:$18^@033$E072:$/5B6[8/14DwF240^â>%e:72C,5$A2<a2]g/89$2/0B9^<>6D7[40D>Y157wF250Ƚɬ|A
 DVeɈEcACCEPTwF260hɾĂFy|FUdLUƔU,XIƸeGXgCAIwF3¼CYCLjbFOGGY,ƏUMBrǅNɔpxkqSUN.SEÊʪq1hCITYSȨst|DUSK^&'ȟÊ
 BUILDuq!mBƃB.DGst|NɫlWtÖźbVOLCefMILKY|WåEkƙG=BsEUϐE-AFR#AcvER#AqASIA-AUxRnIAh%'(pME.DIeqNEW|ɐ¥WAXu
 |CrSą<%0Όǣ]'7GIBBū['1Ɩ^&1e^&;(?+;e>0<]$0]5,pĘE>31>%3(<%<^3([$3SU/$/G=Wu|xkƔOT/$,ũMOMEĊ®DϐzlÑSUNc½§
 C=UD,BEHmD%$*4½!mh>$(p!mcSNƃŭNu,TyNADOhFOG,ȿ[ԃ+:2)HOT|DOG,TACfBUR.TfïxNUT»EDLu,EŻGri|TrbDECIDUū:$)
 PnM]#)CACTUS[*(PEPP¢TULüCǌRY|B=SSĤROSbHIBISCU?m(F=W¢]%+EkǛĆIZEcR#EhǌB,ǱzAF|CLă,MAPLszşFnLi$$)%&($Դ
 -ǜȿ,MœROĤTOMtfAUBERGmbG!PEqMELj[r)^#)TeȥmbzMj,BeeaPmEAPPLbƜ]#)Gri$$*PEk;#'CH]9(.Eqx!WB$;',HvBURG¢S
 L#EËPIZZaMEt|j|BjbPOULTRY|zG,R#sCRŠ¢1BnLhCOOK¡R#bCU$C'e:$*xEvu|ɛL,SPAGHETTgBrøFRiCH|F.EqROAx¡SWEET
 ƦTtfDeGfODi,SœgF.EDŢ.MP,Ȓ|CAKEpSWIRL|DEʤ,Ȯ|#sCrv,ÈV¡#b]$-DOUGHNUl>4'IɖOCOLtsĜCeDY,LǩIPÏCUxkD,HjEYƦ
 T¤yTCAKbBiTO|Ŏ,POTËFOOD[*(u,FyK£KNIFbTEAC[Ŋ*ĳţLbSAKsBOTTz£CâWmsG(SqCƄŗ:$*TϐǬDRmK,BEÖMUG,CLmKu|>$+q
 BABY$+*</2pPLtb^%)pPOPPu|CyK,POPCyN,.BBj,W!PP¡PrSilBIRTHDAY|^:(JŠ-O-Le¿N±.xMA:x*FAũ|^$+qFIrWyK]#-|
 SPkKL¢Bn=j,ƮY:0(¢CjF:W'|<](TeABtA<+)ď¡F(GqPmsDECyèJAPeESsDǩqCkP|xrv¢ȿļIMbɐ|VIEWu|CErMjY,SCHOOL|StC
 HŋG!DU÷C¹HEkTpTIP|jƹŉBOUɍ/S)=WERqMIňkY|Śn,rMmDÖ$C*MUSǬǉʌpJŠqxUDIO|M#ϐHjbzVEL|SLID¢ǴROL|KNOBqBEv¡AΕ
 u|%++ÒEq1DE:%9hFILM|FRvEqADMISǢ|T#KETqCkūEL|HySbFER.S|WHEŋRǩÖCOASĊȒuƦz£Ȓ,:4.MOVIsCvERaCmEMaĎ?%)kTI
 x|PAzTTbƽHAlʊUS|Til<0(lC(PPÖʌ,Ýîu|kTqVǫO|GvbDIώ|HIlS=TĆCHmbBƠIkDqGvEēbɛLu,Fč>ɒ/q[>.bʃz[@2SAX^7*GUI
 Tk%N4?Ȅ)ElVIOLI$Q-SCybRUNNuŢIRTpSAÉTiNIS|!CɍT£$k(SKI£?#'BOOlǵKETBnL£HOÏïɍR:m*,SNOWʌER%-(¢SURF¢SPyT
 S;a*TϐHY,HySs!Cu,vER#e|ʚ?.(RUGBY:$-SWIM/r(Ã|LIFĊGOLF¢!Cu|MOTyCYCLb1CkhCR/M(|BA[6.VOLzY^#(FIEL;5'Cǉ
 |x#K<&-#E:%5PȂ,ƚLs;?*PADDz^',>:(|ȨP¡ʪ,CvPu$p'CHp$œ,;Ō+|CjxRUǓ,HūE^Ŏ.>Œ+bDErL#T|%&1,C(SS#n?$-DESERl
 1ISLeDhNAìn|PkK,xADIÚ<)21½GkDihOFF#?%-?½,Ʀx|?%(b:ŗ)e]$0HOȇTn,BeK,AUTOMt¡TELzR?m,HOTŋ=Vs^#)CjViIiCs
 xOr>Â*,DEƮǃ%%*ĘTyY,IZAKAYA|/Ù*]1-CAxL;1-;$+ÑPiNel°/$,źu|¾]e)1°$$(hROȟTb®/$+(BE$8'DMmTj[p/ŢUTTzCƄ,ɛ
 |eDávPHyaEMOJI|ȢFITZPtR#K|TYPE-1-2d]#(3,+3h!lMūbOX<Ž*BUFFnfCƃTIG¢zOPkD,!BBIlCAlD!Gj,CROCODI^:(nbSN
 Ȼ<#'KE%w(bRv,GOAlÂƋMjǉ,ROOS¿±#Ki,DOG,PIG,BOk,EzPHelOCġUqȇRn$Ʊ),BUG,eT>ę)BEb(DY|BEETLbȒ]ď-Ȓ,B=W$%)U
 RTLbHtCHu|/.($Đ(^#*FRjT-Ęu|%%.BIRD,PiGUm,KOnaPOODLbDROŚkY|Cv[J(CT.e:$*DOLPHm$C(sĘE^A'[#(;B)^#(%B*]
 %*A[#)$C*$$)SPĳu|;C)Hy%**;A*<'*OG[#)PI[#*FR?$+Hvx%-+WOLF]#)BEk?'*eDA?(-NOSbPAW|PRmTS±IPMUNK,EYEqEY
 bEk,;&'$7'ÎͳÑŔȠŏƊ|ƈ,1~?%<)>%;o?%;hFIxEDţ&/u*<$.OK%$.THUMBSé&,1~&hC(PPuţȜĄ;$/CϑN,WOMeS|Ht$<'G(SSEqN
 ECKTIbT-SHIRlJEeqDrSqKIMjfBIKmI[(+C=ĉqPURSbƊɜ,POUěMeSŢObtHzT#/$)ǯ-HEEzD<$(])+SeDn,1BOOTShʚ$L*BUxǜS
 ILHOU%²)UxS[$3ǦGIRL,MA;7*,FvILY,Me£]$(|HÞuţqŀME^$7WO%%5POL#E;Ò*R/,)pBUNNY|EkqBRǫpVEŰǥpBLjD|HĹ,MepG
 UA|PIĆOcTURBehÞÖȲ1%,(hBABY,>ï/|WyK¢PRmCã:Ô-OGRb1GOBLmhGHOx:«)eGŋƢ!¿rxRȐnIi,nIi|MjSĊIMP,SKƖ,mî÷DESK
 |ǥ,GUkDSȲDeC¢LIPx#K,NȻ|%>'ÉĘEĆSSAGbHĹCUlBkBERƦLbSYRubPƠ,KISS²=VszTĊƛGEM|xjE:&(?š*lCOUPzpHEklWEDDu,
 BEtu^$*Bɿi%$*·]#)q$Ż)>&-Gϑ/$,;ŭ.áBLUE[&+r:*,YEL=W%$)$k'Pz^(4$Ů+rVOLVu].*%&)<ƀ/ë|ÈPEpA|¶|mȊbEzCTR#|
 ĵBULB,eȥ¥BOMB,SzEPu¥CǩIǢ¥SPLÛu|SWEt¥%ǽ+Ō¥PIzǛƦfFzX¡B#EPqDIZZY;*-EECH|%ƙ+ǡUGHT;$,Ñ:Ǯ*Ǯ|ŪS¥MjEY|ɜ,Κ|
 EXCHeGbɭVY|Dǩk&,CrDIT|CkD,BeKÒEpYi&c:'.[ě(&,PĴ&h<-(pWuS±kTpUPǝ|TRiD£Yi&»Alǥn|ȸUĊB.EFCASbMmIDISC,F=
 PPYēSK,OPTǬ/%(DVD,FILsFÞ¢ç<$/PAGEǼ,1ĘuéhCniDk,TEk-OFF|>$,CkD|ƈ;5<c~<$.hBkļklCLIPʌ,PœPm,RĴ|/$+PAÝCL
 üx!ɔ|RUL¢ɸ<$)BOOKôƚqzDG¢ÒE/%',1½%i+VsCăhƏ/&(Ą]#)Gr^#*^u(]#)yeG$$)],(qNvsBADGbSCRǩ,MEMfͶsrCEIV?B)¢F
 AX/Ŗ,StELňseTiNaPUBL#|ADDRã|=UDSPEAK¢ïERu|MEGAPHjbĳŎ|TRåm^#,PŠAGbE-MȻ¥mǔu|iVE=Pb[#+pƌÿ¬ƏMȻŎp=W:ƛ,d
 ʦ%$(hĄ$'1[%.d/(/hPOx:Ȏ)xn|Hy>ɩ(S$P(,MOBILs/8(c½o]1/t|ûhVIBR÷MODE;(0ǛF,NO|[$/q<D*pBkqCvE!]T*FLÛh$ǉ)
 :%);M(VIǢ,!DIf?%(CASȟTb^ǟ(òJECTy,PyƚLsxErfP!YÖBEADqTWIxED^54qCʬE<%.£zF/$*çÇÿq7½Đjsʁ1~:),é%);heTI<.
 -$(LßBoNã¥ǯ$%6%e*pCeCELL÷ž1,½jsSĴ|źb½Æ^$/ShBt¿Y:ä-ČG,ʄMAGNIFYu>Ƚ*o]%>LƄpmK|Pi,Ə/%-ǉ,ǉ]&(,ç]#(ǕL,1^
 6;h<µ+,LmKæ;X)|BUTTj,ŏpû[v5iD[%?jp?Ձ3p)o['0SOjpo[*5ġpUP>%4^q'jsǞ|ÃEi¥ǉȨ|ɺmPUTæƻ;ͱ7q4ř:$,dŅq%()qLtm
 [%+hFIr:Q-TyěWRiěHvM¢NUT£BOLlHOCHfPIxOL/ȭ)SɚbTEz]#)CRYxn[Ǵ)Å|Ū¡xkpÄ¶/Ŋ,>6/BEGmN¢T.ȷ|EMBLĨ®Ģ^O*¾[$2
 ůsƜō1BLUsÇ:á+ë,;%(ëh§%&2§?&0UPɟƜŕb~;%9?'0ú/(5^%@čo|ƀOW¡ÑōŤ$&BĐďƦMMEb%$/põ-ŞsŷhNO]ӗ))SEMIÇpÜ¶q1o$&>
 h[O-ÐSļAPĊ¾/f)Ĕ]ĸ)>$0CELT#Ĕ,OM¥DOVEËPEACbKAABaMOȬbSYNAGOGUbMiO!HpNmsBReïqɛLËHYGIEIA%Ü)|ĘsjsO;$(c·$
 $+Æ/%,µ$$,IV%%,Å^#,EVi%$+Ã%$+NI]+-T/&.L<'/Tɴ^*-jE-Ɇĕ·^#+Æ%%,µ$$,IV%%,Å^#*:0)%$+Ã%$+NI[+./&.L<'.:0(
 ^*,ho|:ä*c^áPƖƉ,1½<%0Ruu|ǕL,]ķ(CeDLbMeTELPIECs/<)®SKƖ£ďBjEqNO|PI!CY,HO;()ǜBUSI<õ)UIT|zVITtu,SzUƙy|
 SPY,DkK|SUN>Ǡ+ȇD¢1WEBhJOYx#K>*(DeCu,)Ɗ|^ń6?$5pPAGbo:(<¾ğUCHŖͶb°:%7$-.j|ġËMODĨCLv$Θ)[Ķ0ŏǛ]Ň-xvPED;ŉ
 ;ŭNu,FLYu>&-PiÊ^(4LmK¡:ů,q°>ű,č)PiCILcBnLŪ|Pi,F?ʇ*%$(PAmTBRUÉC!Yjh)ζ×<Ȓ0ʦţpFmȥS|SP(Yö³[&D1;ș1c~&,1
 V#TyYţ,ƊpÄFuÖƢiDEDh[,4Ʈ|ƲWEi]'*£Ru?(*qÑ~|Ƞ)?Ȭ.SΊ|Ñ)Ƞƈco^$31°;'8®]'7h®[ȼ9?(?ŏ>3<é;34~:39é%39~$39$ɒ]
 ;ǯ)hDESKġ>Ǉ-ǉʌ£MūbÜNETWyKED^&,qPRmĊPƄET|CnCULty,®HkD|<z)]Ǎ/¾>%;Ȯ$%6TAPsCkT.DGbWIƜ?2+,j/ģ+:3*·<$1Æ/
 &3RŠBnL,Þ|]ǟ5HkD;0*Cri?8+|#j:ƻ(#j>Ǡ0>$)DOCUǃpTƢdeD|P#TUrc[#*hFRvEp>%,TIzqe|$O+^ǥ+%Ǩ.?$)[Ǣ/ʏRq1FILs
 Ŏh]#(CABmElΎÒEcPAGbPADhÒb1;$-Ύ>4+:%,GESh^$,]$.WAxEǵKElȇRn|ÒsPø1$ǲ+/$':[-ȿƃMmIMIZbMAX[#)ă(P<Ʃ3|e%Į4
 ÿq^ƃ0X,mCrASsFjT|SIZE¥DE:%;ȸrSǢ:R(ǉ,ROLzD-Ŕ<Ǎ*[Ȉ0Đ$N(xƄļklƱȥ<Έ)<ɚ(?Ƨ)u|Ď<ʀ2Ü!YSǽʝŉoh)<Ȳ+UBBLbo[$2·
 >$1qÜ]$2):ȸ*/*/]$4)eȥ<&/?$2MOOD$$*;ϲ-|^$.chΰpBn=l1ƬX,Ŏp>$-Þ|]%5$%0hĵɯ²ΰ:'.ɯ,WyLD|M¹MȎT|FUJgTOKYOğW
 ¢xtUEËLIBERĕ>I-ËJAPe,MOYAgGRmN:Ѕ+^Ў,ILu|EYEShĘEpTEkSËJǦ:&+[%-çMOUÎ5eD;)16CÞ:ɧ(lTɔLY-Ə]%'dHnfƉShWmK
 :++<,1<15ĘsSAVǧu|ƍ#Iū;ϖ)rLIEVED[)4^ʐ/Ͱ;/,$Ľ-hSMIR</-ƞ%$)EX:s+Lã[$)UNvUS^,+/,-]9.PiSƇ$&)CjF:''/$-Ĵ;
 $);ʡ)u^).THϑu|A|>%'$&(?<=dƏ;L3xȂ-ĳ|ͳ4eD|]D+EYbeD|:I6hDISAPŪ$2+Wy.%$+eGRY^#)Pĳu]6*RY$$,ÝSEŻu]=3=OKË
 T.UMPH,^,0BUT|$M1FϑN<^<eGUĥ$',EkFUL;3*EA/2*%ʧ)$$*TIR/'+G.MAC]1,=UDLY|%5/>-8HUÂD^%=£]R.1SCrvuǜFEkhA
 xj]3/L?*(]2.^.+$ʯ)^,2ĳ[/*1½Ś#nĆSKh>¥,Ct>V;Ct|%¦BCt^D94/q4h$'1WRY$-(^f)^)5?[.[W,Ct%X0Ct<L.:$-SL^b)|
 ^S/b1;¦/hUPSǫ-~?I3ROL^:,cNO|GOOD|GExURbOK^#+hǥ|B^v)DEEPLY»E-NO-EVIL|Mjǉ,HEk[$2<ó)?&4APPY|ǥ|!ISu|jE
 ţ,%%2BOTHţSǜCEzBRè1[9+,½$v0½FÞEDţShNyƙWEx|ȠzşSOU/%9<')EA<'7/%8×?,<1[,n^59VmE$(,?%8$-1;(<?%=]Ȉ*;.A1
 <.x<9>BUD^''%%7],,:'6%%7:7*/,;1:,khHOLßQUILT|ĢyNvil4m|®ı0SOLID%'L%ʄ-RƄElUP:$0o>$0~<$0ƬƆET/-,<=*$&?
 ƆĄ;(6]%=1Α[$,hSWÛ|:%6Seͼ|$+)_Įŵ|QUOT÷ȣ<(,d[%@cß_[&@h/.)ǪROBeG?17]%/?;3;&CŻY<7*ɼScʗShɯ%Ѱ,[%+^$1;N*H
 ELIɚĊxEv|=ǔOTIVbRȻWAY|Ck,ǯ-SPE¡T!mc½BULzT:Ϟ(h/%)ǂRfĵ!ŰxèTRv/ѕ*BUqjǔ:j)qTR^є)UqBUS|xÏMmIBUqvBULe[Ԭ)
 siGmE>α+Ck?)-[$.TAXI/%-/$'$м(%ȧ)/%-[$.rCr;ъ+VEH#LbƍI?D(TRȂ,kT#ULt¡LyRY,T!CTy,MjO!Űʪ|]?*,SUSPiǢ?$+/
 &-CABzWåAERȐTRv?'(HüR^Ѽ(l^D(]#(ýT!FF#|ŭ,ð$%1<π0&%?.S|%Κ,%'*ɸF(G|jƦSlDOy,NO|iTRY&,SMOKuæ>%'>$2PUT|ň
 ¿ǜITS|ʀ¥DO|NO$&+¥POƚLsWA]$.Nj-/%8B#YCz/.'^#*S[$*Ix%C-?$-PEDEx.e?''/$-S±ILDRiĔu,MiS¥WO/$/rxROOM]Ϛ(¥
 TOIzl<1)C=ȟ¤$Շ)tH;#(TUB,PASSPyT|:ӛ*,CUxOMqɜGAGsC(IM,)LU?$'bŕEpɾƎqòHIȺEȓĐ^ϣ/SǧCbBOYSæ?Ѕ(S¥COUCH£LvP
 /Ŕ-ACǔMODèSH?ԓ*ɜqǕLHOP^ʓ*öʀËWy[c(OCɈjn&?(-$¥*,xUPaPAGODaHmDU|TEMPLbHUlEzVtywF6D>+(YGRĴ?Ӹ(b:ӭ*u|BUǦ
 HvMER£WRiCHǚELD,OIL|DRÚMOTyWå^u*|TRŠ$%)|;r(UPɟ<ԉ,ĹPLeb1]#,ú/%,h;$2NyTɭxɟ<%,[#*sDEƮURb1k.VuwF6F0h^Ι
 +:¶.[½/DIESEL?Í.<Y(iGÖ;E(SCOO¿]6*/$+CeObSzD>ʕ+SAUC¢SKtEʌ<Á(|R#KÈW,P#KUP]½):Ԏ+$'(wF700,nïM#næƻQUmTã
 iCEdĹ,FIRbEkTH$m),AQUAFyTIS^#(|rGIa4>#(ĞVITAE<#)-2dVmEGk,?#*Ğ+1,SULFÌPHI=SOPǌS|[$*°%$+MERǳY|ŘLIMtb
 4^#,?)(dCmNAĜSnlNITR:.(.OL?#+ĞRO?*'nl4SnT-2dGÞ,SILV¢IRj|yb4y<3(CROCUSËIRj,rGUL;$.ɚPÖOr:((-;$.<1,Ë%
 %),$*)<$.5?#)-2d:(*eTIMjItE:5(Ë;%4<+2>&1,ŻDIG.qTI?5)zAD|yb$)*Y?15:%+>-(<$/<&1?%3$M+[$/?=+[$05]#+Ğ4
 d%&*Ğ+2,nKnI>#*ĞMkCASI;:)-v/9(C,kSi#,rnGk?#+ĞAU.PIGMilBISMUƙybTkTk>#*ĞQU#K|LIMbBO!X<#);W)nÚOŰȇ.lTm
 [ɹ)GÚWĪPOWD¢CnX,TUTĕȨUT|MyTUÚSCEP¿ËJOVbCADUCEUqT.DilxkƜ;$+=DExjbSO¹URm]ӄ+DUÕAÂqPOT|]#)BR#K//)Ɯ:$)v
 nGv,xRtɶİ|/$*,5[#*-2d;L)èPrCIPITtbDIxƠ?#'SOLVE[#,ĞPU.FY,PUTrFAǓ,CRUCIBz[#+<u(3,AzMB#,BtHËMkY,5VAPǧ
 SdrTylHOÌNɫlDAY-]#)MjÎŊDRv,4ȎCEwF7Ǚ®ʄISOSCEzS|o|ŕb1UP;&Fo>&F~<&D%ǧ.ʔ0ó?ɡ)Ñō>$3/ѡ*?$0>Ť)%%6ƢrMEL>%8
 %$.sǴAmu|®ʔRĴ|TkGEl®TmY|ı®[62ıĵÑıó[$/^70ċ^71ċ^76ċ^7;ı%$.^76Ż$324ó|ı0Ģ^95ë,1%)-[$,ó]$1hÑë?/@ë[/+$)-
 ë^/6=ZiGE^//[$,ó]$1h¾:$*?<5%'2THm|Ǎď,ŭ>$0ó?$/[M(<$/^K)^$41^J(?$/h>M->%4[/)SnTI;Z+/$,ó:$)<Y*%$)$Y+/
 $)>X+?$.%X5^+2FIVsSPOK¡ȕó<%8:.(:%8</);%8?0)]%=]1,:&@ĵÅ^2;Å]29Å[2:Å?2?Å>2</&?ĵÃ?2;Ã]29Ã$3:Ã/39^%?ĵÜ
 Ū¡®xk,ó]%=%(QPm$ŵ(%&)ĵµ](=[%<^'F[-9:Ǳ,ŭ?&><j-;77]e-%:?Å;(<>%;Å%09<T0]*<[%<>R.$)H/<@Tɴ;<>]%=d%*0Ƚŕb
 ʂs:%4Đċ?&.%%1wF7E0,ůE:і+ō1$Ճ*Ç;ӵ*Ç:Մ+ōBϑ;%,R;+,;џ)ı:+*ı/+*ċ/++ċ/+,ċ/+*?2/F0h/?)Ȧ&wF800,]Ҙ2p§ŕsǶ,UP
 ^&Mo/'M~%'L>39ó?39$'No:'N~/':^3LůE]39^&Mo/'M~%'LwF81]U?$Z'I(¿n<40/'Po<'P~;'E^EB%4L>3O$3>]&J;z)$3N1
 %3B%3z?fH/C</'Po<'P~;'Oh[4,<j,-ĎEDÿpNȖ|ÈFlUP:'Qo>'Q~<'Q$5Hó$5,:'Qo>'Q~<'J$5OBÞ]4,%'Oo;'O~:'H:4N;Ġ)
 ;4,/'Po<'P~;'I?4OŻY%52?'Uo^'U~]'H<69%Ҟ*-POxáUP:%;o>%;~<%:$-.ċED?,,^$7o/%7~%%0>+4%ц+]+./%:o<%:~;%1?
 ,5;A)/-7[%@o$&@~^%.].D]-7],:]+9ÿwF850[I/eͼ^+,/%:o<%:~;%:?ͻ-<%51EA$%6h<Ό+?'8[)8h)o/67|~/%.>;.60,ɢ%q
 ,?<-ĵBkBá1UP:%:o<%:~;%3[<4<%4cEAx^.6[<+?'8[)91/6,^$(;O1$59<48^38;34]2::24[1;ó;21:%;o>%;~<%/:4:ó^45
 ó>58]'9$*:1/¢2[61/%:o<%3>£9<69<%);62$%+:68?'8[)-%6:ŻY>67?%?o^%?~]%-^7?^%(;88<%*]8>>(=%+=wF890h;:,$
 ƣ><ơA^Ɵ@$ƯA¾?ă.m%/9%'Oo;'O~:';;ǀLÒCH¡ǀUP]%Ao%&A~$&A:M)?ŧ.|ɢƙjb4ŀɅqjsõ,jsɅ<P/đ-ƀ¡¾>f5đ|:&5:;.ƽ:)Aġ$
 )Aû</Bo-:)@o;)BzF:)Bŏ-ƿT¡ƀOW$*6^&<]*<FRjT^*D$'L¾]QEwF8B0hȖ|Ƞ[a+THi/ъ.co<%.ǳVu|/ы-wF900Ƚď|FyǄpǱ¶q4Ɨ
 dh)ŊŞ$'5Ü¶qͱq¶dh[k+|Ęuƺc]k*ƺ,ėš;%/š0PmïD]Š*q¾^Ԉ):ɀ)$$*>&(uţ,ZIPÝ-M?:(ĘbMjEY<$);ұ3ũMOMEĊNE/3)bTHmKu
 %'3Ď-BeƱbROBOT$&)HUGG/'+ĺOFƹƉqCnL|MEţ,ɧŏǛţ,û-:>*FISlo>$0ƊÈKbƊpƈ£Ä^=*ĔöI|=VsYOUţ&?ԝ0WBOY|HAlCL:Ӌ,NA
 USEA$ԍ,[Ӌ+jƹF=y|(UGHu,DROOL[9,LY$?1PnM,SNEEZ/A6jsEYEBϑ|ʦ:Ջ1pxk?Ԣ*jsůE£jsú?%'h<',?:*|Cău|Ə?վ)E.ū?+-
 æS/'-$U(%ՉB£Ɗ^'2[Ԏ9VOMITu¤Ƅ/B*pEXP=Du|Ď,PrGNeT|WOȲBrAx-FEEDu,PnMSéğGEũ»LFIbPRmCbMeǜTUXEDfMOũļ.xMAS
 ¤RUG,ǥ|DOu|CkT^Ͻ)JUGGLu,FiC¢MODERN|PiTtHLj,WrxL$v(A¿ƦLfƊBnL,DIVu$ԙ)WIL%W(=W¢DRUMp]#'x#KqCL>r*;՟+TU
 MBzR;$(qSPOj,GOn|NEl.FLbΌʀ|ŚnΔ?$0Ɇ>$1Ŏu|G=VbMkTȐkTS|ƨî,ǒu|xjb(ďsx#K£<7(ȮBnL]ϼ*ēSC,CROISSelAVOCADfC
 UCUMB¢BACȡOTtfCkROlɜUETTsBrøGri|SA(D¤nßPeǛ/վ)xUFF^@(t<')EGG,;=(ËMILK,PEeUTqKIWIFRUIlPeCAKEqDUMP<M)
 yTUNsCOOKIbTAKEĳ|Ŏ±OP?G*ɛLp[E)CUPpx!W,COCjUlBROCCOLgPIbPrTZŋCUTËMEAlSeDWIěCeNED;5)zAFY|Gri,MeGfɐ|C
 AKbɜEL%tGÆ>Õ*qYA?Ի-<(6TEk[v.ƮY|Ɖ£:$*tcUNEVi%,-źY>z)hăHEt:շ-<¹/NmJaDISGUIS$լ0HÞu|ŏ</(q1½PzAD/6+hSkg
 (B|COAlGOGGzqHIKu|BOOlFLtŢObC!B,LIj^8*CyPIj,TURǉ,UN#y>%*EAGLbDȂ,Bt¤kK,OWL,FOX$&)BUT¿FLY,DE¢GO.ǅLIZ
 kD,RHmOCEROS¤.MP,ȬID,GI!FFE$))ZEB!^#)HEDGEHOG,SAUϐOD,T-rX,CR#KElKeGkOfLLvA]b'CƄ,HIPPOPOTvUqP^l)!CC
 Oj,=BSĊMOȬITfM#ROBbBADG¢SWe,MvMOÎDODfS=ÎOTĊyeGUTe,SKUNK,FLvufOYSĊBEAV¢BISj»n,GUIDsDOG,òBu|CebEMOJI
 |ȸjiT|ƜHĹcǒY$$)BnD,¾;$(hBjbzG,ʚ,TOOÎİǌfİVƠŐSAFETY|VESlEkpHEku|AID:Ѧ(.Z¡[Í(C]+(MeUn>$0ECHeǬkM,1zGhï
 ESsWEDGbCUPCAK>п*ÈK^:(VE!GsŎ,GkL#,jIj,FA(FŋWAFFL]U+,MtsDRmK,#sCUBbBUBBz<g'$Ӳ),xeDu|ǥ,KNEEL;$.DEAF|
 ǥ<x.MjOCLbADULT]Ҿ),ÞÖ>$)BEkDED%(+ǥpĎSCkF,1m|xEvY|ROĤCLIMBu,m|=TUS|ȰhMAGbFĹY,VvP>ε)Rǥ,ELF,GiIbZOMBI
 bB!m<Y)>ľ,Ơ¡C¹;.)G=VEqCOAlSƄqƜGIFT|iVE=PbFIrCRŠ¢JIGSAW|PUZZLsPIECbTEx|TUBbPET.ēÉDNA|_HELĖȸASqABACU
 S?*'sƢuUISǌ$]'LŎ<м*MAGNEl:Ӑ+=ì%Ɣ(z[ö(LËÆøBnLËYk^`,Pm,TEDDY|BEk,B?B(ǵKElRO:')PAP¢BkËSO¹SPjGbrCEIPlN
 AZk|vUzlƞļã|Kucɍi,ROOK,BĥÏKNɫlPAWNh¾;'*/%)|Ɍ|FyTY-FIVsDEGrEq°%'Lƞ:'L?/0u^&,NmETY>&+/6*?%::8(<%:;:*
 ?%:<<*?%:>>'<-;h<<0m^3z^3z:I2%4z%4z]c@Ǩ|Ɇ$e8:(Yƞ<(H;g@ĮKud/yB°$(Vƞ/(T?B@·[7-Wi?B8:(Yƞ<(Y/30u%(8SEV
 i%f4]&=:g2?&=<h4]&=?i4]&=]j1/2H?U,$;z$;z$;zƞ/;p/;z/;z;ÂJÜǮ|FIFȫ<¢1%(Wƞ:(W?2.:Χ(H%Մ)°$%5ƞ/%4;):]Ü;°
 %'Lƞ:'L]E5-ɍic/$*/X',$$*>U)h°['QwFA60hXIeGQI|ƜGiERncMeDkm,EzPHelHySɖA.OlCeNj,SÞI¢1°?([wFA70hBnz[Ʊ)
 qjE-PIECsSWIMSUIlB.EFS¤yTqTHjG|SeDn$))8,DϐËB=OD,ɝESIVs/ɏ+xEǡSɚbX-RåCRUTCHwFA80,YO-YfKITbPA!CHUTbBO
 OMERĸMAG#|WeD,PmtaNExu|DǩSwFA90,Ru¡PLeEl/Ɠ)!Zy,AXbDIYA|LvP,BeJfMIňA<ΐ(LMElACCyDIj,àDRÚCOm,CkPiTRY|
 SAW,SCrWD.V¢(DD¢ė,MIRRy,ȿƃČNȥ»Wu|NEEDLbKNOlBȂElMūsT!P:ƫ)BRUÉĎxjbP(CkD,ROC;++]ȑ)IȷIF#÷:&(ßBt¿Y,HvSA
 wFAB0,FLY,WyM,BEETLbCƄROAěPOTT:>*lW[J'FEAũ,=TUqCyn,ΎNEx?D(pEGGSwĘ0,etOM#n$Ɠ*LľqPEOPLs$ɼ*?ɇ-Ȳ1ǥhǥpC
 ϑNwFAD0:Ҋ(BER.EqǕL|PEPP¢OLIVb$Ȟ-TvnbFjDUbTEAPOlPǧu|LI/ǧ(BEeqJA%h)E0,MELT>Ȋ-nUT[ɰ6Ą>ɠ1ÊMĳHcPEEKu|EY
 bư<%)hǐí[*)Ⱥ$0)P>ǃ*[?)F0/ʌ3<ɳ*£THUMBĔE[Ы/<ʕ,:$/PnM|~ţ,1UPţhƈ|ȠtƹVIEW¢/J(ţSwFB0/E'Ƅ|SƢeTǺ,1/$,2,^#+
 3,]$,^#-2^$.$$.4^$-4^&-^$.$$.34$+.%'.%%/%$/5$%-5%'-^$.$$.35/*.%&.%$/45?2.:'.%%/%$/3/%/3<'/:%0/$06%
 %-6:'-^$.$$.36>+.%'.%%/%$/46;4.6:3/>*./%/%$/2:%0/$056[C.<'.%%/%$/35$,/<'/:%0/$045%4/?'/:%0/$034<,0
 ]'0/$'hč)<f)ư|čÄ)TO|čąRb9o,4Ť[&I5>%81o<.3?*8Ť<.5=W[&I5>%8%(8Äo,ąr?3*>%3%6.$(9?*:%-.$(Co,1)?=8<,@5[
 6g$(Co,Ä$(=h^5-?[H?[z)>[@>[z>[z>[z;w=?[z?[z1eD|o£čɸɹS<8)h):',£o/(DŤ:'*);-M/',Ť:-P)ɸʩ;0/%&Ao%&A=W:)
 CŒΈ:%)Ğ+5,Ŝ^%:]>1:&4cŤ%%6ho£$&9c;*9h:'(<->;3@1358[B(;;71Æ;'+^I+FIV?$3>M7»Vi?&1ho>,2>,z)õ<ԇ.Dbo%%5<
 :)%%6=W%%8mȚE/);%/)£^(.['7c^$7/(+%*0wFB94^6/;(<o;(/ɯÖʌ|ɮ[4,;%4:И+ýɮ:7)<¶2o[%)1o;%-)ɮ,?·8õ[¶4o;&9<.
 /ɸ/A01o[%;hčo%)=)$)<Ŏ|D!WuS|ŭ?Ý=Äŉ8o,4]Ă?5o$%44^*3%)?8%)8]-7<*7o,7/-:o^/@£Äo<1:£$5?o:2>ŉ>5B>D9^6><
 G?/FO4ëdŜpɂEhǶͰEDƦǪ%x1²)ŊRUNNu|Ȳo$%4[(,?ѳ8TIP>ӻ-$Ҁ3£;ÝDo]'T~['3o]&5UP?&H:</FÞ¢o>$0VOID¡Ǎď,o|Ą^Ռ,ķʂ
 sưĔc$U@ëh¾]զ+nTIrpɾƎq)Ʌ|Ño|Ƞƈ,Ä>&Do<&D$7,^8,Ɲx#K|FIGUrc½kMS|ʦ,zeu|ûdoc½DRãh¾éɟïVRjwFBF0»Gǃ¡ʈb"

end Wirework.Text.CharName
