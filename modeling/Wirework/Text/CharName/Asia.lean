/-!
# The names of characters of living scripts of Asia
-/

namespace Wirework.Text.CharName

def asia : String := "
 @531hkMiIeƼAYBdBi,GIM,DaEěZaÔElTfZHbmgLIWN,XÔCaKi,HfJaGHAD±ÔMi,YgNƃģVfƐPÔJHÔRaSÔVEW,T?)'RÔCfY$$'PI
 WR,KÔOH,FÔ@559,1Ȣ*)ŊƛAͿbEMƂSIS²ǎĩƝABBrVIƤĲĮ[<(;#'%=Z%=zcƆECH|%&(*YIƕ1Ķǭ,@58Dho-Ęu|[S,E¿NITY&,zF%&C
 $%,DRv&,@591,HEBrW|ACą|ETNAHTAcSEGOL¤nÂzlZAQEF|QtedGADOLcTIPEHarVIaZkQaPÛTaYETIV,TEVIR,ȥĚdMUQDvcȥÈ
 YIM,QkNEY|PkaTELIÈ|GEDOLaPAZ¢A^/'|HAFUKH,MUNÁMAHAPAK%I'RƟdKEFU(cDkGaQADM^)-QETeaYE!H|Bi|YOMfOLbILU
 Y,DEHgZmy,1ȣĆSO!|ōŪ|ÂVAcHtAF|:<(dPtÁQvtScHI.Q,TSERb^%)]%0HOLvdHASERƻVAVcQUBUTqƱĚ|yĆPIQ,ǂEG,1ƁMAȯ[/
 *!FbƁPASEQ;2,m|¶cS[#)<)1SOF/''UQ,ôŤÖķôčķƁNUN[E*A%,*:6):R*@5D0,*þcƲ%u'ŋDAzlHb?8'ZAYm,HElTElYOD,ÀKşΗ
 E[$+MĨMĨÀNāNāSvEKH,<)(ÀPbPbÀțDg<#)QOF,RĚΓTAV,@5EF,1YOD|ŕbƆYIDDĥ|_VAVdVAV|]1'_YOD^@1>e)]d/@6¼A!B#|Ņ
 &ÍSeÁʚÒEÐ¢;%*FHƴSvVAlŅÐĀ$++-mD#|CUBsROOl1µTH%$(;.,Rå:'0PÖMILz&cɇ&hAFGHeI&,<)*ĩ1Dtsł,POET#|ȚE&ĺMIS!
 cSnLn(HOU|A(YHsWASSnLv,<$*;$,!HMtUL(H$')b!DI|](+eHĿAKHnLUq1§êTAHdƆþpLvpYÔZAmcFtHaDvMaKASRa1ɽ*ȣ,ǏTƢ
 ²Ƙ¶|ʨƤƝ*KÛMI.;.'cHvZaþpMADDA¬4>%(ǽŹp^$/þ^$.¦YEH]&9,BÔTEH|MkBUTAdcTHÔJEĨHÁKHÁDn,THn,R/=*»i¤<#(øDøTÁ
 ZÁŐGHŐKEHEHpƗ¬4Ü>$(ŷFkS>:(pÓV,5<(2Ü<$.1Τ,*FEHcQşΗ,MEĨņ,HÔŹ,þĆKSURaYÔ1FtHte<P(te[P(te,?R5ƀDaSUKā$I(
 H¬$I0ʝ1ŘƬþ,Ó;*)ôņ|GHUNNaZWA!KåØ§VĀdÓ%%1ŝ1³%,(?4)pͱqźY$U/<«2ʈE;)+|Ýą&,1DECIMn|ł,ƪDS|ł[*'sŪ¡xk,*ɗBEH
 dȯcɻþ;i*AS(d½;7-¬6ŷê;s)4þ,ŹcU$m5?&-%x(TT;#*ÔBE%o)pƛ4<`2sƌcPÔ/(*<#(HA/w64Ɨ|ðǽNYÔDY%(/<j4TïH<#)ÔDDn,
 Dn>1/ŝ6e%W+TAHcDAHn,D>#*U/(.:6>4µ;%.cRRÔrHp§V,4ƛŝ§V¦%%,£¶¬ƗǽJ/+/$.2»ip%*4>±<7eD/74cSADpɷ4]&5T^F<Am
 :%:ɗFE:ş(;3-MOVED¦5ŷV:&/<44P;O(ȯp;88ǽK^&(SWÛ/ġ+]S2ǽNG>%';-:GAFd$(,cNGOEH^$'pɷGU>%)/;:Lv/U0///$'-^z
 2ņpŝ3?Ã)cRņ,ņ>w?cHE?('ACHÛME%o*>@3?$,YEHĀdGOn,4>z3c%ó.|/&(ŹpƛKIRGHIZ|ObObťU?$,YU^&->h2Vb^î,[þ-ǀ4§V
 cŹ[33bY/V;dBkrE[461Ķ*Ab§êƆ[l,Lvp$ô04ȯ]%>dǄM|Ưî:R(þ$ď($Q.»i,1ǏAYÁxkTËRUB|E$1'ZB$2/ɾȾdUPo|ώʞk:%)ɗĎËK
 HÁ]0)SOLt¡îcß%/(ǯĆDDaŹ,YÔǯ;H'dņ,1ʀËSAJDÁΎąRs=W?B(dǯ^#)1ɾ?$,pɮED/()b§ßMEĨ*Dn:ğ4*R[ġ5hƢE[,([ā:d[āX*S
 H$Ê5cDADpŝGHAI?&3ÍSmDHI|ΑdPOxȰ|Mi,1*H<77SY.AC|ǏΆ,1SUP!ík|ĶŘ[$4[&/ȹ;&.ƣýƣȹ|SKEW¡ûdo[-1;&5Ř<%7o,Ǵ!Ǔ,
 HkKze|OǕUScǂ^#*ΛCUq@70F,1%ȃ5*A(PHcɻ?$)BęGvndGkSHƨcDA(Îɗ:$)|.ÉHE[i(ZŐHęTę;(.YUDHdHEcK[+'Lvɝ,MIM:ƴ)E
 MKAÎÀ/$+bPb³PbSɝbQ]('.?ƴ-W,ÝSĦBH[-)Hvn,DH$3)1PŽH?ŕ2ʇ,1ZQAP<%;Rǵ;%21ǐZLvA|Ŝdʞk,1H]'4[$*-ES:%'ʇ,ES<&
 5RWAHaFEMmmsķQœÈYaRUKKAǈŀð;ž0ʝ1;é3dʝ1OBLIQUsí;%2MUS#,BkrKH,@74D,*SOGDĦZHAmdKH[E'F/¥4B$Þ6ŜLY¦4^ħ1Ü?
 Ɗ9ȠUPǝ¦9eD%ƕ4Ɨ/İ8[ź3^ļ1cHA^Ɯ:[/DcDnp^Ř2$9-|?ő14]/9crHĻ»i/ņ9Am^2Mƌ¬/26ǽFEHpɷ^:E;Ĺ*$ĽE6[(;ǄM?(35ŷņ]0
 9%B,]L-LvpĜrH>H<;Ǜ8SEi<'C[U,§;j0?/'¦8[a/%+)^'A:'0rH%'M:0D?ǭ4;ă?·¬7ÆEĀ;Ǣ.$)O8$)/ǱŷŹ>/^YE>N(rE?/[cHA
 /5F%3-»i;'I¬4ÓVcKAF%z7hŽeA|*HAAcÈVIYegņU,!aBAaL%%,KAAFU,nIFȅAAVU,ǄMU,F%%(DHAnU,Ža(vU,G%%(GN[(*»iŨ:
 $+Z[#+T[#+YAaP%$+J[#*±?&,TAaHHAaƟaT:-)ZAaÂiùAɝŨ>#)TfZfAmU,GH>#(Q/0(W$4(1ABAFILgAABA]#)IBI?#(EEBEE]
 #(UBU?#(OOBOO<%)BE?#)YBEY<%)BO?#)ABO<)(^Ȑ**NAa@7C0hNKO|Ǒ*AcEbgbU,OffƱǵmƅ,BaPaTaJA±ǗRaRRaSaGBƶKƑNA|
 WO=SfMĝaNīWaYĝ?%,JjA|JAdƐRa1ŶÙêTɏ=W]#).Su$$(càDEΕu^&*^'-]'9NASnIZƤ_¶¬1êŖAͿb=W[$4ĂOO|DiNicGBAKɃNi,1
 ĩǎ(JeYne,@7FD,DeTA;$)DOȋE&,Tve&hSvA.Te|*A(FcBIlGAȲDA(lIY^q(Zi,IlTIlYUT;r(,(Bt;Ł-uAAlm,FgT[f'IY,QUF
 /Ŀ+A>.'ş1ômcm-nşOCCLUǢ,ƱEÉ1Ȣ*EPiĉT#|YUlȣ[$3ØàEdbăàAa?#+AA$%-aàaA<-5ÙaØÙAdàĠ]'5I;/4IdgO:s)^9*NEQUDA
 a@830,Ɓ/%*cAFSAƥeGöBAU,tMAAUǚYYAA(A[ű7ƁME=D#|QIțcZIQAa%$)ZAEF,TUƭkKAeùOF|MÛFAAleN?,'@840hMeDAȴHnQA
 cAB,AG,øÁœiNaAZ,IltlAKSaǖn,v,e,Aqm,¹ASZ,ƥk,AÉAlD>(+KøŐ1AFFR#ƤVOC:r2GEMmƤ@85E]9/,@860<ƣ,*MA(Ynv|NGA
 dJĝaTTaNƅNNaBHaRaǅLǅSSa@870:Ŝ3þptTACH¡FtHa5ƽo<$*4o|Äž)?$1<),<ʓ)5đ|o[$*ROU:Ś0o|^$+l):$,/'*ŝ4/(+],.[
 22%ţ2^36£>)6]24])35?,7)Ru[=8%&1[,>^)35o]ʇ*)^#)1ΤpăxRȂ[%*4Źdɷ1*THm|YÔǵEí]C.ʦ<$.*ņpÓ]ſ5?Ŷ:TAHp¶:Ū4[Ũ
 1^ƀB,1Œǀ@890,PĴÐ¬PIAxr?$.?&'8<Ȟ/ɲn-JUZ;Ȍ.ɲĥMAv,4IMAnaTAÂŋ1?Ț(|WAAJIB,ɻþ|MOƟSSAqǲzD$ȟ*õ^#)Ê^$);ƭ2?>
 1/Ű2JEEM?Ĺ8T$Ƣ9>ɼ-;ƲBȯpŝLvp_ĜM>.+^(5Y;J3$-.[4/8¶ǽrHp=Ï]ɚ/[#(m,ROHuYA;a(ßþ,Dnp]V4SAD^ʇ=pÓžx!ɔ|^Ǿ*<f
 3V<ʡ=¦K[?4<A6£N<H0:P2ǄM¬P:%<T:%1TEHĀ[Ɣ3ņ/HE$'5AFR#e|FEHdQşņcP]`2,T<$4>$5CH?$3KE?$4GH:B6[/2Q?ʫ<J?_=
 6ŷLv%ƪGGRş1§>ƥ,/ɿ.]$-d]ƛ3ɷɲSÁZÁ1ů/Æ.:Ȕ2$ġ(¦ůsŞsŷ$(-mȊ[%1^2+ßŹ[2/ɲk-RUBdSøŐ%M+pKAS!cß]$3$)-tH-THntH
 a4AS-SAJDae-NISF,SAKTaQIF,WAQFAd/Ξ>1DISPUT¡:ʡ.×DvMA¦ǒY%ô)cDvMa?0)FtHte,DvMte%%(te,1ŖjE:C-cƗ¬=OP¬js
 ŝɷ=OP¦1ç]-+c^-6]D.Ź]1)pRud$0-1['(pŝ)Ƕ¬o^$3]&2¦o^$4_<)95½ķ1^%8š[8(šôSΊ:Ͱ0@9¼DEVeAGA.&|ÓCΜUc%$/eUSVk
 aɁa1*ÙAcaAagIgĠU]Ŏ)#|RdL[)+|bÙbbAg^$*fÙffAñaǈGaGHaNGaCaƐJaJH^Ŏ-TTHaDDaDDHaNNaŁHǗDHa[ő+PƵǘBHaMaY/Ƽ,
 L]œ.VaģSSaSī1ØOEdOOEÍNUKTƴɰaØAAd$;74RRd%;NÍȀaØPRĥTHvt!|EdAW,1ĤxRã&|UDtTAde]#*1ŴE>щ)lACUT%$,Ø;/);ơ,
 UbUUb1*QAcKHHaGHHǹD<E(RHƶYYA>8-RdLL;@0;%+L,4:%'ή%$)Ǒ;Ɯ/&ĺêȭu|ķ*]7*AcObOObAW,:8*MkWA.|DDaZHaɭVY|YaG
 GaJJaǰ/:'aBBAhBiGnI|eJIÍ[p0?o4@985:Ǽ/;o<[&'FcbAg@993/mu@9A/m<@9B2,L?#(6?l0?$(C:kf@9C7d$7*CB%i6*KƊA
 |Ta@9D7,AU|ʭÐ[$'C,*R!cRH?&(F%`Q@9E6,1Ǒ*!pÄư,4čư,1ʥÐcʤ,1Κ|ɩty|ɏ^.2jsLã|THeƹDiOMmtyc%$.|ɋ,1ISSʮGeDA²
 *VED#|/a,[p6eDHI²@A01hGURMUKHI&|ADAK|BmDIc>#(;g-A0;g<>%'F,E%Q)A13,O:fuA2:f=A32?Õ)$$(5?Õ)$$(8$g+A3$
 g/<$(E/f=@A47[5,4B,O$e5@A51,]Ì+t;$'9^f-HAc<Æ+RR%'(bFa@A6%`aTIPPgADDǖIRgURaEK|jKkĺYAKÛ^P6@A8]O(JktI
 &<ć1;V+/P.8/P0%Ć;$v,<î+/('F,*b*Ag<&0f@A93,*Oc$VtA$V>B$V.B5[Ĉ3^$(C;ćp@AC7%ć1?$'B,>Y7D0,Ĥ@AE0,*;½MAE
 /Za<V5ʥ<W+F9,*ZHƴ?ſ(cƀDA]ѭ*],)-¶[?)¬Ç?$0·-$%6@B01hO.YA]aHB0]aI[&'>ø,B1>øwB2%]=B3%]-B3%]7B3%]g@B47d
 ?7*4<Z8B55ĺăǆAI^ø/:ú4B5:ú6B5:úSB6]`_$ì,*WaȶʩdõcɹqjsɋÎΈ,Æ;%.q@B82hTvIL&|?[+c[[-8[[<>%'bbE$F*92,O:î,
 ;$'9<Z)$$(C,J?#(E?Z,@BA3]Y($$)8/Ÿ-;$(E?ŷN@BBb1;V<@BC6/2.CafO>U7D0,OM?#'7?S5E6,ǑȱcǨ,jsƪD,1DAY&,MjTH
 &,YEk&,DEȺ&,CrD$$+ASĀ&,ʥ&,Ņ&,@C¼TELUGU&|ί;±/Ā;ƭBί[U,Ā<ţJC0Ec$G,C12,O?ġwC2:ƭ^@C:µiC46d%8-4/];C55,/[
 .?µ2]%'8,*țcDZaRRR/((D,NAKAA!|PǩU,@C60%¶NC%¶a@C77Íͻ,ȶȧƻODDƦWERSËµdjE<%;TW^'<Æ$(<<*+EVi>*6<%<Æ/(<ÍT
 UUMUhKeNADA&|ȭu[ǸNͻ[mK8[m092[mzA[mG@CB5[m7B[miC[m0C[m<D[mBDD,*$l0cFa@CE;lPE;lbF1ÍJIHκƴUPβ@D¼MA(Ynv
 &|:Ç;^YB1>Ʃ7;ȰA>.'>Z/D1>Z`[ȮzTTTAÍő;S*cʊUL<$-ɰa1$^KD4$^/D4$^:*¶|rPHĺPka@D54,*CHƠU|MdY,L<Z'^Ċ1]ĭ1jE
 -Ǯ-eD-ÅTIę3Fy]#(cÜÃ<$'qjsTWi:$(/$)iÎÆ:%)?&.FIFÎ1*ȗII]ƂUD6:k0[ěz]Ňy1DtEÐ/I2NNdN,ϒ,K,@D81hSmHn?ƅ?Y;t
 ,Ya@D/ō/YeNAcA[#*AE?#+[#*I>#*?#*U>#*U$%*R[#,?$,L[#,?$+E>#*:++])*O>#*O$%*%'*@D9anPAP!eA|K$1*MAHA[$1
 <&0G<&.[$3KeTAJA|NAASIKYAYaSeYAKA|G?)5C?)6C<&5J<&.[$3TAnU/-0dSeYOOG]$(K^$*c:/+J[+5TT]+6TT?&5DD?&.]
 $5UURDH%:(>$(]9-DD])5<-7;-6:-/[$3D/D,/M+B3<-,;-6P])6P<&5B<&.[$4?#*vB]$-Y?#*R:/-D/1,L]$,C0,V]J2S>?4
 S^6.;$/H[&0$+/F[+-AÍn-(KU]$)F,ØAE(-PIL(dKETTI|AED>$+DIGA;$/^%)IS[%/IS>%0PA$'+@DD6%&([$18,GAETT<*,O
 MBUV])*%$)]$*|DEK]%,|HAA>2/5DIG<$0]p(UKITTAd%$/@DE6,1ňH$Ւ^@DF2,1Ø;.(%504<-/1ƁKɵDnIYa@E01hŽIʐ|KO|KA
 IcKHO|ƟIdKHUAlKHWAgKHj,!KHeGcNGO|NGU±OļedCHu,C[%)SO|SO>%*ObYO|Yu,D$'(DaTO|Ptǖǡ|THedNeGMjTHfPHUŽOcN
 O|Ni,DO%F'[''TAO>'*ľdŽHe,THjG%')ȆO|BAIMAgPO|PLƵO|P:'(FO|F;$+e:$(e;$(SvƂfMOĆ]2(ǖRO|RUaƭ=|Lu,LȄO|WAi
 ,S[''(dRUſUAcHO|Hü=ļULaO|ĸHO|NOKHUK,P?Ô)OgSA!|aMAI|He-AKt[$*Adv%Ĳ*bUEbĠUcPHmTHU,@E3F%ʡ.ĂBAHl<L-[)(
 EdAbfAIĆIMUe,4M<<'(Ic(K>L(YAO//'YvOK[#'TAIKHU^0(EKdTHfT.±tTAWAcTHeŽƟlNIƟHIlYvAKKe,FjGȲ1Ǒ$5-eGKHeKH
 U^_(MUl@E81h(O|*KO<b)Sľ?%'4dTv]#'6cPnI|]Ŋ)fCfPn:h(;K';&*C]$)JHĝ$&*NYAd<ō8cDfTfT:-*dTv;,*%&(fBfPfP^
 %+F>,)PH?#)F$%);,)BHaMfYO/Z,@EA5d=OT^#'7cWfSeSK.T|ÈdSSAcS:)*H$*/ǅf;,*1ΘIqØAd]M'Ke,Aa]Z+Y,YY?Z(Í^)(
 ȀaØ/((j»MIØ=dNYf@ECƒØEdEgfåAI[%'6,1KO|($$'8,Ŗ[Z0gCA<Z(1CeCELLƤNIGGAȵa@EDʠ>('C,1$w(cMf1*KHMU|G;5+F¼
 TIƲe|ȝĤ1ôGTÖYIG|MGO|TRUNCt¡a5-ɶRNv|BCAD|Ma6^&(TÂGĆcƯ>(+MDUN|MaȔu%%,SGAB%%(ArT^$,PHURŢ/+)]$*;+)^$,S
 BRUL|ƀ,BSKU/2+fBKA-ŢOG>$,Ǫ%7)#;)),ƍIMI:3-Bxk,ƀ,NYIS$+);%)]$-;$.Rmļi|SPľS]$*GYA|ȑ|ƀ/6*-DZUD|RɈS|Msà
 Ce,?>-,1=GOTYPE&ļA;'*dLHAG$$*1AxRO=G#n&|SG!|GCe|-CHk['+-KHYUD|PaSDjG/,'UGSÍRƍ|DKk|GCIG,4GNYIqGSUMd
 NAG^$/dDKk<')NAG<¼_ŊɏɤbȾ]^*BSDUS$7)cNGAS|BZľ|NYI|Z([C6BZHI|MI]C)<'.SGO?=+ï/T(ț|-PHƭGUG?(*GYj,4GYAS
 ceG|KHeG^$.ÍYA]K)SĺM:$,*KAc;Ǎ<@F49<ǍL$Ǎ7ͲDZaDZHaWaZHǹ-]Ǐ+L;ǎ3aKSSaFIXED-î|RaKKaRRa@F71:ǌIϒdbEbfOOÍ
 RJES|SU|NGA|ROĺRNv|BCøØ³g4IIÍ:M);Ž(|DƴSNA|LDe,ôHneTaôPnUTƴLCI?T+Ye>n+LCsț/R(MCHU^t)R?#(|RGYuSdŚ%$+
 cÓ:',1ŘǊED&|?*.d;&,$(4c*ɓ/R>9/RS/RzWa4Ya%R(Bb1KU|RU|ǈ4^p01CeTƠ÷ȉ;κ)BEtdŭ$$)CeG|TE-ùBUB|-CHn,1ĂD.L|
 BUcRDO|RJbPADMA|GDe,?$)s?Å,,/×(PaNy[''4;Ë(-KHYŰGSUM$$+;2'$$+@FCE:½/NAG%¾-,4GSU[ê+BS;Ú,GI|MGO$.'ecM
 NYv|YI%%1]Ö.,ƯBRDA|RNYu]ë;/&,^ì6ho-Ęu|SVAxI&,zF%%8;';p¶qzF$&B]ă+ôzADu$d'e[p+TRȻ^$2wɞMεKAc:ɀDN^g^%e
 .W?d+ǅA¤e|<ɐ/bMj|E<ϕ*ØTnL>Ŭ)/'1AI<'(Ig4OdEĀÍ[ə-ŝɁaȀaASAl1φYa4RaWī1*Grt|SaǑȉňTLsƫĺƫ,Ă=CtƇcȸzTöAFOrM
 iìöGiI%&(1*ÈcSSA;ɮ/ϒ;A0:×61*Mj|NGAdJHaBBaBBE;=5O[=,Na5Ma($/-GAW|Kki|ģØ:%.EU,Ŗȣ%%/HtHg5KsPHf1*WES¿N
 |PWO>&*THa5PWA<6/<&/:,-6UEÍ:)6jEƓ4,*EA%&3NNa5YWaGH^,2GEBA:&*IdKAYAH|Ob4ǟ<G/e:Ü/CaZĝǗNƵaFǘTHī^C3È$D
 ,WaØ;o)a4bE¬ÀYÍÈ>7)Ğ+1d^#(5^#'CȎCIL>%.4EMPHt#ğ]Е/UMAI|PA(ľ|Fƴ^$1]*)¤e$ǲ]ÍKHvTI;*)$3+3]D0AITj|a4Ag1
 Ă$.(ɏΫè0GEyGIeƼedBα;#(ϋAbHbHIυEw0C7,YNw0CD,Aiw0Dƒ*ecBα^3WFI?3'ELIFI×Ge,Ő1Ά|łɠ$J,Nk,%$,*AicHkȓ(BIn&
 hHʞļOSEjG|ǇcͷNIEāʒl/%(ɥ,MIEÚPǋP?%)^#*IOS;$)]#(ű,CǋC^$)^#)Cτ,TħÎPħPH,ħH[.)Ʒ>()>$(%%*ʒT%$*:.(?2*Ʒ/2)
 -]%(>()<$($%*]+)ɪ%6.[)*ɪ^7.Ʒ%$)^*)$$)>/*%$*<9'^#.Ʒ>$./'5<-)<$*<2(/)3/?(<$)$$0]@*/$*?@)/$+/A+ɪ?61>J
 2Ʒ$$(^6*>2.$$)?=(^#):<)$4-^#.?)/>5-:$)ű,$6-^#(]4+%$)/S)%$)^5*%$)]5*%$)?K*CȵUEUM?$'%$,<--CEjGCħM;$3
 <C.e$b-Ʒ,ű^9+ű$9*ű%8)$$*<(.Pe[i-ű,ű<8*ű>8,ű<7,ű>7,YES$o.-ű:7,[$(/$,>q-/7/<$4%u5]C+;$+[A2^$*%),?$,]
 x,>m2^$*^9)ħ$5'ym$$)Ǉ:z0>?(^#):=)$$);/*ʒT%]*ʛ,1Jľ:·)ʛcaAbYaYAbEfbδWaWAbObYfȄEfșgYǟťggA-fA-ťA-O;#'Y
 fEO-;#(U;#'Eť<$(Y>$(O-EfO-bO-YbO-fO-ťO-YA<#)E>#'[.(O-;#(gU-A:#'bU-:*)U-YbU-ťU-aY$%'<#'bYU:()^%(Y$&
 *gEU-U;#':3(-U,I-aI-YaI-f<$)E^$(!Ea<#.-EO[#*U?#*I>H)/&*-E>9(>7)Ya;#,b1JjG%Ø=Ǉ?K./L<ɥ<#)[Ì0>q)$$)[X
 )$$)/+(^#)^l+/$)^l+;Ð/:â/%Ã.:â9:áOǇ;^)%9/-$ð/%$0]f<Pe/$-%6+?å1/$+/>5<;/](($$*ɥ%$*];);ë.?C/;E6/+(]E
 /<$5ħ;D+ɪ[I/[,(]'/e/$.%C)[(+YEym[J.Ʒ%$*/ù5^1-^#)^,-<&+e/$.]M):+*]3):ÿ7<,)<ð2>8/ɪ]ï4]î?/3)^Ü?ͷ^Ø3$>
 *:Õ-[#,%:(/$,^8+>Ê:%d0?U)$$):2)$$)>t*ħ[(*^Í6<(*Ǉ;&*Ǉ>C,Ǉ]3,Ǉ;^/$)(hEΡHAcHŧgHAaHEbHbHfHOƑLU,Lg(azbL
 bLfLWaHơHŧHgH/((:((HbHHfHHWaɑŦgMAaMEbMbMfMWaSZaSZùZI$$'aSZEbSZbSZfSZWaRaƭRg!arbRbRfRWaSaSU,ſAA»bSb
 SfSWaÈƸ¤gÈaÂbÂƔ¤WaQaQU,QgQAaQEbQbQfQOaQWAw24aQWI/$'aQŸQWEw250,QHaQHU,QHI$$'aQHEbQHbQHOw258,QH;))5A
 ^#'I;$(^#([&([))60,BaBȆgBAaBEbBbBfBWaVaVȅgVAaVEbVbVfVWaŁĿgTAaTEbTbTfTWaCaCU,CgCAaCEbCbCfCWaXaXU,Xg
 XAaXEbXbXfXOaX?2)8aXWI/$'aXŸX:2)90,ƅĈgNAaNEbNbNfNWĝĝĈYI$$'ĝEbNYbNYfNYWaΪAdU,gAaEbbfWAcKaKñgKAaKEbK
 bKfKOaK[0)B2,KWI/$'aKŸK[0)B8,KXaKXñXI$$'aKXEbKXbKXOw2C0,K/7*C2^#'I;#'?&(ŸK>7*C8,WaWȄgWAaŸșfWOƵkYNG
 E?46w2D8cZaZȃgZAaZEbZbZfZ$ɣ+HȃHI$$'aZHEΏZHfZHWaYaɡgYAaYEbYbYfYOǗDŨgDAaDEbDbDfDW:ȭ+ŨDgD[%(]%(DbDDfD
 DWaJaJU,JgJAaJEbJbJfJWaGaGU,GgGAaGEbGbGfGOaGWAw312,GWI/$'aGŸGWEw318,GGaG?('GgG]((^((GbGGfG>'(THaTH
 ĿHgŽaĉbTHbTHfTHWaƐCHU±I±AaïɖɖO±WƵƵżHgƂƵEbPHbPHfPHW$ʅ+ĿSgțaTSEbTSbTSfTSWaTZaTZĿZI$$'aTZEbTZbTZO:#'ƶ
 FU,FgFAaFEbFbFfFWaPaPżgPAaPEbPbPfPWaRYaMYaFYAw35D,1ŶGEMmAì£ɀ^б/c?$5?'(Ƥ1ƫ²ʢȭbĶĩɽƣPrĘsƣƝ/Ǒ7ɘjEc]ЬYλ
 <#(ς>()ĕÃY]((ĕǮ,ɇw38ƒȝSEBtBEIT|MWAcMWgMŸMWb<%-BWaBWgBŸB;%0FWaFWgFŸF;%0PWaPWgPŸPWb1Tjn|ôYIZETdDErl.
 K.K,Ù%$*DIFAlKit±IrlHǫl>'(-$$)KURTw3A0hïɿEs*Acbgfȅ,GaKA%v(gGO/x(V,ơbHgHfHŧV,LaLbLg=$û(V,οMĈaHƅÁNbN
 gNfNĈV,QUaQUbQUgQUfQUU,QUV,SaqϓùV,DaTaDbTbDgTgDfDŨV,DLaT:#(bTLgTLfTLĿLV?v*E?v*O[w*V,WașgWfWȄV,YaYb
 YgYfɡV,MVw3F8,1ĲYEd<&44¼CeADσǭcbǸgIgfOfY-CrsOfCk.ÖEEdIcaAașEx/&)șI;$/gWI<$1gWO<$/fWO<$1fNASKAPI|:%
 (A>%/aWA<$1A%'-AaAI]2+W,ǰ,ÀACUTEdŴbđ|Ŋƛġ/$.o;$.ƛ_<))_ÙɂEqÄķÙýžČq~|ǁ2i,m,j,e,PbPǸPgPIgPfP^F-P$G.HEE
 dHIcPA?Ç)<G0PWbP?G0%z)I?$2gPWO?$0O>$'?$2fP:G/;§*A?$2aY$$.P>%/<3-,TbTǸTgTIgTfT;7-T;7.DEEdDIcŁAaT;70
 TWbTWI>$0I>$'?$2g·?$0f·?$2fTWA?$0aT;71T$].%$)lTTbTTgTTfTTaKbKǸKgKIgKfK^6-KOfKA^ī);50KWbK;50?Ĭ)I?$2
 gKWO?$0O>$'?$2fKWA?$0aK;51K;5.%$)K,KW,SĳH-S(VEY|KEHdKIH,KOH,KAHcCbCǸCgCIgCfC$7-C$K(:Ő)$70CWbCWI>$0
 I>$'?$2gCWO?$0O>$'?$2fCWA?$0aC$71C$7.%$)C,SAYISI|ÎMbMǸMgMIgMfM]4-MOfɑAaM]40MWbM]40;ô)I?$2gMWO?$0O>
 $'?$2fMWA?$0aM]41M]4.%$)M?%/,MH,AŽPASCe|M;7+M,NbNǸNgNIgNfN:7-NOfƅAaN:70NWbNWA>$0aN;01N;0.%$*;y,ÕNH
 ,LbLǸLgLIgLfL:.-=fLa(aL:.0LWbLWI>$0I>$'?$2gLWO?$0O>$'?$2fLWA?$0A>$'?$2aL<$/,ŚȐL,SbSǸſIgSfS?4-SOfSA
 $ƭ)?40SWbSWI>$0I>$'?$2gSWO?$0O>$'?$2fSWA?$0aS?41S^F.%$)S$S/qSW,°ʚ|S:g'SE:(*K%(-KWdS-W,SPWaxWaSKWaS
 CWAcÂǚǚIƔƔfÈ?ǁ+<:0:$'¤WI[$1I[$(]$3^$(O]$1O[$(]$3^$(A]$1A[$(]$3aÉYbYǸYgYIgYfY>K-^#(A;Ɣ)$40YWbYWI>$0
 I>$'?$2gYWO?$0O>$'?$2fYWA?$0aY^21Y>K.%$)Y,BIBz[%*]&/[£+YgRbR^$)R?o0bRǸRg.gRfR[k1fRaR%j1aR;01:$(R<$
 /[k+R,FbFǸFgFIgFfFOfFA:Ə)<)1:$(F,THbN>$);ơ)I:$-I:$';$/I:Ƥ*OfŽ[Ʀ*^N2;$)ÎT/*(:)(]'(<'(ÎTYbTYgTYfTYaN
 UNAVIK|HEdHgHII^Ȓ)fơAaHc/&(UT|H,HK,QǸQgQII^Ȁ)fQA]Ȃ),TLHE;#'I;#'O;#'%1/rdRgRf!cNGǸNG:#(gNGO:#'fNGA:
 #'aÕNNG^M+ÂdSH]r+AcWOODS??,d[>)[<+cLHgLHIgLHO:#'fLHA:#'aLH,TH:(2$C<cAIVILIK|B/«.Edgf?Ŭ/A>ź.aKbKgKf
 KAc]4);C,fHAc?×+GHUdGHfGHE:#'bGHgGHaRU;>(brE:c(aWȄfșE^-)aHWŧWfHWbHŸHWgHW%Ǚ+fĉ$Ǚ+g:R)U:Ĩ*E:#']ĩ+aPż
 fPE:ǋ)gPaP/Ɣ(fGE;Ǩ)gGaKHñHfKHE:#'bKHgǈKKñKfKKE:#'bKKgKKaKK,NU?<(bNE]=)aMŦfME>Ʉ)gMaɡfYE^Ǽ)gYaJU/@,J
 U,/?+JOdJE;Ǹ)I^%-I^%-AdJJU,JJfJJbJ]&(JgJJ;ɕ)fLbzbLgLaDLŨLfDLbDzbDLgDLaLHU[W*E:#'b[Y)A^f'U]g(/i,E[i
 +[%)U>ơ*bTz%ƣ+aZȃfZE:ȗ)gZaZ,ƯZ,DZŨZfDZE:#'bDZgDZaSùO»»bſAƸ<k*E/ɗ+I%á*:ƪ*O%Ƭ*E>Ƭ+[Ȇ+fï?Ȇ+gƐT>'(?'([
 '(]')^'(țcCHI&,ĶQAI[y'I<y';#)<#(O;#(<#(A;#(a]y0WE?t(Wg;#'<#(O;#(fT>c)WAaÀTHc]t-WhOGHv|ȭE²1*BEITHcL
 UIqFEkN,SAŰNIj,UAÎDĹ,TmNbCǩ,CEIRlMUm,GylNGEADn,x!IF,RUIqȻM,jN,ÌEɝɝ,IO?#)EAB?#(y,UILzeN,IFm,EvHeCHǩ
 ,P>0(1FEAũ²³^$/w6A0hRUNȴFEHU|FEOH|FsFcV,ɃZ|UR|ťR,Y,W,THU.SAZ|[#'S|TƉ,ęeSUZ|aOS|fAC|aAESC,Ň-BReCH-O
 SS|O¤yT-TWIG<$*fObj,!IDO|!D|rID|R,KAUNaCi]#(|K,G,EÕGEBO|GYFU|G,Gk,WUNJO|WYNN|W,HAG(Z|H,HAEGL|H?.0H
 AGnL|H^..[$-NAUDIZ|NYD|^#'|N;&/>$*ʇ-N,<:(IS|ISS|gbJERe|J,ȥ:-0k|AE>)/k|aIWAZ|EOH,Ýǡ|PEyƙP,nGI:%'LHX
 ,SOWI=|qSIGEL|[*/SOL|S[*.<$*C,Z,T:+(TIR|TYR|T:&/<$)D,BERKee|BEyC|BJkKe|B^&/]$,$9+P,Ą-P,EH%4(H|bMeN
 AZ|Me|M:90MADR|M/*.>$+(UKAZ|(GU|=GR|L?++L,uWAZ,u,ƱAZ|DAEG|D,OTHne|EĉL|fEk,Iy,CWEyÎCnC,CEnC,xe;/0YR
 $/./$'#ELeD#%$'Q,X,1Ȉʨèʃ]$2ď>$0k(UG¥TVIMADUR¥ǕGTHy¥*KcÉOfFReKS|CASKET|Oq4IqÔAC^n(w7¼ɈA=G|*AcgñaGaN
 GaT<Э,aB>Ѷ:1ØIdUÍȀƴPvUDPODw71F,*ȗ!hHeUNOO;/s:.0hPHILIPPms$H61_[$.w740hBUHID%1qw76^E)BeWA;+Pw76E?+,
 w772^+8ǙKHME%Ҩ4KfKHfNGO%Ҩ+CO±fNYfD>ҧ+O?#'fNNO<ҧ+Tf>$(fBƵaPfPHfMfYfRfLfVO^Ө*O^9(ƑQa1ρ|ɀ|QAQdQAA/Ŗ,U
 ,QUK^ɫ*UV,RY,RYY,L/#'Y,QbQAgQOO|TYPsjb5·dQ%Ү-mǌiT|AQdAAc]ԟ1Y,YY,ĠĠaObYaIbbAbAgOfAUÍNIKAȵcrAHMUK,YU
 UKAzAPmTŦUUSIKtOe,T.IS¹BeTOC,ROBAlTOeDAKHIAlKAKABAlAHSDaSvYOK|SeNYaVI.v,COEÕBtHvASAlKHe,BA.YOOSe,C
 vNUC|PII|KUUH,zKğfBEYYn,PHNAEK|MUe,KOOMUUl1Κ|Ă.ELĺAVAK!HASeYƴtŽCew7Eʠw7FƒĂzK|tTAK|Sj,4MUǦPIgBEgBUȡ
 Rv;#(-<%']#)PII[#)BE[#+Ujw8¼MjGOLĦBIRGa1ΘIqĩĶƣµ[Ӵ*ODO|Ȯ|ǭ,SIBsȝBĴkYÐ¢MeCHU|ŵcĶ1NIRUGU,Frsι|jb4>>,<
 `+ł$(<µ%E`82ƒ*AcbgfU,ObUbEbNaeG?z(aQaGaMƑSaģTǗƐJ$Ç+WƶKaǈTSǹHAaZRaLHaZHI±I;B)àɀ&d[.0/.5:-0>+)YaWA/¾
 )<,)JIaNIaDZAc%J(EdgIY,UbU,eG%'(īP$5/JaF;)+^3,!aC>3(Ac<N*IdKaRaF%%*CHApƗw880,nI|GnI%ԏ,;O)Ɂ%$)DvkĠB
 ADvaÓ<$+BnUDaÜ%$*agK%ԩ*:ԧ0]Ԧ,D]ԥ,SS;է,AHc^D(?0,Ta5?6./%-GHa5?+*JH$,)DD$>*[**CY%++c%(,ŊU,5Y?*6BHA];
 -ƱnGa:&3LHAw8B0hCeADσOYcåAåWåPǦPåPWǦTåKåKWåMåNǦNåLåSO[ȇ(ƔY¤]#(WǦYǦYåRåNWgOJIBWAY|NWI;$'<$0gNWO<$.O
 ;$'<$0fRŸRWI:#'gRWfR$%)A>&,PdlK,C,M,N,S¤c/ԍ+W,WE]#+À§ƛÀɧ¶<ș,^Ȫ0=Od(AcTHWE%Ɨ*^#)ǡO:U(aTL>$(LHOO%Ƕ-W
 EdSHOfHOO;Ǥ.WUdDisGEE<l(GWA]ǋ.^ǋ.WaBEAVÖDisL,4R<)-ȷn|Sw9¼LIMBU|ɀ-/&+zTĊ1<խKYe$իS?c*SīG]((!w920^ԋ1d
 gǟ[ā.bfγYAdRaWAw93ƒĲɓNGa:լ,T]1+M>0*ÍMUKPHRiGcKEM^#*SA-Iw940,=Ow944,1ǎƝʈEhTAI|z^3/X^D)T[>)YA/D+L>C,
 MƶVīQ>Ô+?F)agEbÔU,OffUbbAUbAIw970,?Լ+4w9ǙNEW|//(Us*êQa4ßQaêKa5/1(%%);$0êTSa5SaY^%);$-^%,a5THaN^%);
 $0êPa5<7(^%);$0êFa5VaL]%):$/êHa5DaB[%):$/êKVa5XV?%)/$.êSUa=W?#'w9B0dØɀŢyTi¢5AaII?Ł)bAbfOaUb/Â*UY,Ǧ
 OåUEY,IYd*ÀV,5ÕN,M,K,D,BdŖȣǺw9D0;Y/4;YOdTHv|ɘjEw9DEĺ([#-V%Ŭ+ĂP;ņ,cMUOY|KOElPII[#)BE[#+Uj<%*Rv]#--[
 ',[ĵ,/$.BE/$/%)-DAP[#,^((/$,]('%$-BE%$-?(1-//-TUTEY>4(?)(ROC;4'?#(BE?#*Uj/%)Rv[#'$4-/$-['*]3+%$.?(
 +^-'?#+<(,<3+$$+:(+:3,%$,:.+hBUGmESE>Ə/GA<ʆ*K;Ɨ.MP;ƙ.NRaCaJĝĝC^È.VaSa^Ƣ9bfAEwA1b1Pn(WaǏƫhTAI|?W(*ê
 Ka4ǈKXAd=W<$)XaKH[È*êCa4CH%&)%$(SaC$&(YaRtaêRtHǗ=W%$*ReaêTa4T%)*%$-NǘêPa4PHaF/&);$(FaƂdMaßYaêY/ѭ*E
 %ѹ)bWaêģ4>ã,dǅaßHaI$¤-bOf(bGrt|SAcφRa5La4(|TeG|(IcʤĆI|K?$+<(2À/Æ,P%=/|y|]$*MǘSAwA60cȉSAKOlØa4[,'SA
 lAaTnL|A>5+bUUE/6)fOA¦ǦbAbOfAg<P(AgOAĀ;42dTjEǺ,KHUi|;$(3,+2,!|HAv,>.(v]%)-LUsKkewA7FcŶCRYPTOȑM#|ķH
 O!|;½[wA90cTHv/)aA[B+WIeGd>#(WAǖSAWe,KEƃHǦDOKMAg³Ɍ|ReA]:(YvOK,KAe;#(KUùt;$(St?$+HĸCAeGwAB0ȩǲL¡ΐCil
 1DIAErSIS-ƛmFmIĕƌáƘķX-X¦η|í¦ĄÐ¦_$%3ĵąRnIZ÷ɉE¦xRjG%&@ɎES¬_/%4]&0ŷʁ1ŮW¦4ĮW¦1)ɎISǾsŉo>%6o,/(4ʍ/(->%7o
 ,ɦTS¬Ņ&¬Ó_kCH¬Ǥ¬_$%34ʝ1Ʃ^Ѕ+/U+ŮmSɣG,5R,TwB¼BAíSE&|ULU|R#EMdCeD!cCECEK,SURĸBISÁ1*AKA!dTEDľcI:$1U:$1
 !|rPa4<$+(|LiG>$.EKkaA<))O?(1ɓMAHAPReAcGAdGO!c$ű)d(CAcJAdJE!cNYaTA|(ɄdMURDA|](.DA|[$)nP[$*4[%.NA|R
 vBAlTAdTAWAcD].(DUcNaPAdKAPncBAdKEMBeGc$ɓ4|SAGAdSAPAdcHAÍrrKe,Ø;8)dULU,4SA.dSUKU,4ILUTd/@+5>&+/@*>
 $.Tnu,4rPa]$*rPA/+,PEPET>D,1ADEG|;#',*KAF|SASAKcKHOT$$*TZIR^#*E]%+VE[#*Zn]#*ASYU!%$*ȗJNYAwB5ƒǑPeTg
 PvADaȿU,CA.K|PvľKAHcSIKgPArRi,1PviEÕΧDjGdDEÕ>:(Dĸ4]f)dDI?$(?%(E[%)I:&*|GEDbŶTEGÔ4iDƋKEMPUL>#(LgJEG
 OGe^$*p[$/LI[$1BiDbGjGdo-Ɗ|çDUG,5Ʊ,4ƏTUK,5TAKdzF[&/Pĸ5PUN^&-PLǖ5ČK,4çPu:A*|LeTeG$B*:$+wBǙSɵA;©-PeY
 ECEKcPeG(Yk,PeGWISø1%ʓ1AbfbEñ^Ȣ+^x*JaZĝ<ʕ/ƶV<ʞ:Xī1ʜ&|PvuKndPeYAKRaPeYIKU,1ØPeGHULU<&)UKżeAEL?N(PeO
 =::)]k(PeEUzľÍPvAAEHĺȀa</4SeGe|Ma4Wa1*ǈ*SYaǑɰa*rUczȆHaÀK,ÀMhBtAK|*AcȞnľUN|ī;$.HaMeDȻu|HǘKkO|BaP[&0
 PaN$'0NaW$&0WaPAKPAK|WaG;%0GaJǗR$%0RaM<$0MaSOUũN|TaNy$$,S?&0S>/0SaY[%0Y:[)L]$0LĝaCaNDaMBagUÍTOMPgØ
 Ed>5*bEbI/<)gO[#)fĠƻ<0/;a5NGdH>s(GO(lPejGjewBFC,ĂBmDU|NA|ǂEKdPmkBO!qJUDUL,^(+hzPCHA|[Ȕ/La%ȕ+L%ȕ1%s
 ,TH<s.PLƵƶFLǘBLaɑLaͲDZ/v.ơ>Ƙ,ģWaA]Ȓ<;u0AAdgfOO;ƀ*?=4KdMȼN,P,R,lNYm-DfKA]u,ReĺNUKTAwC3B,ƁTA-ROLcNYE
 T|THYOOM[$+CER-WaTSė|/$)d$â^wC4D,1*TTAc:ɺ+hOLļIKI|ȧdjbʣ*(dAlAG,ĸn,(aAǖAAJ,Av,AAW,LgIqIH,mY,IR,LĠC,
 UD,UNN,UY,LbƋEDD,i,ERR,LfOTlOB,OV,OHcMU|TTUDƱ,GAAH(A;$*AG,MU-[$4r(aƂkKAaAHøƁMUCAADd_:$)hə|ĲɾVEdŇ-z
 GG¡DbNȖ|fɢsES$ƣ)TE<@)?&+TE%%)Hkȓ4YtdUNBz/+(UKwC90hGEyGĦMTAVRULIƼe,4Bα;#(ϋAE<Վ)υbFgYN,ELIFI×Ge,AmwC
 BD,Ai,>:-(BIn&[þ/Ɓ;±)SURYAdPeG=ÕPURNvaCAKRazU|SteGaKA^#,D^#-B^#,wCD0hVED#|ŖKkSHeAcSHkaPRiƟÍNIHSHVA
 SƴYAJUR<()ȏȳSVA.TaŖ]%.AGŴt¡ρ/'+d]$7KAŽKA;'7cCeD!¦<,.['>|SCHROED¢_$*+Ƙ^-3eUDtTaŝɷÜ<$..G:/*ÛMI./48tH
 kVA[&(^%7ÍɁA?=-^/)c³$&+/%*Ɂ[3.³:%4/(1pŗde[$3c/ʞ+|eTkGOMUƟdBAHI/$,VvA$$+4;(.TIRYǖHEXIî|à:**a/$1RTHe
 G%&2:.,UBHAYtO|%,)kDHAɁaɌ|]$01Ŗ;U)ĀĺJIHκAcUPβAɄRv/(+Ruǽ_?$-Í_:=8wD¼Ltm|śa4Ab1ĲĮAbśBkƜB,4C,D,ę](:çb
 4g1śJ,4K,LƕM,³N,fçO<+2SΊ|f4çfOĻɱOE^-:OU«ƽŊOdđ:$*[(:P,4³R×R,lU<2;U,4$Ȑ+Z¡U×M]+:V,4W,Z,EZHcVO#¡LkYNG
 En|ȇRelAmhǍśGvMa4LvDaPgRHfPSIhə|śŋȢ*?U,dAbB,[Q,D,b³bG,H,gJ,KΝ]L2U%ī*Ȅc§AɱanPHa]]-<+)ʖaçb>Y1G×gK,M,
 iG%V-;M.:M1P,lùΊ[F/V,ŐƲaǍ$@)ƍ>$,P%ͻ)/q+ŘƬĲg4R,ȅhǍ<&:Ʋa4%,(:H(;+,ŮUEdBpÄįD[$6F[$6M[$6N[$6P[$6R[$65Ȓ
 ė£;%/dS:'6T[$6Z[$5×Gɠə|i<Ȫ@dTHpx.KETHROUGHc:d+*Iƕ*IOTAƕ*Pƕ?)2Uƕ*Uȍʎ]K-Pntnƺ,D[$6F[$6G[$6K[$6L[$6M[
 $6N[$6P[$6R[$6S[$6Ě^$6V[$6X[$6Z[$6ApȌ,nPH:%9Dp%`,ǀE]&8ç;%9³/&>ʖ^.9I$-=O;%8Ě%%8U%'9Z%'8ɠ§ĮnƂdC,CǼ,ę
 ;81bF,ɗJƕƬG×H,Iƕ[n'[k,g5[h0π,L^485;Q/d%s,,Mĭ×MpàzG,Np)^))Ȍ%*-N]æ+fPHgSp$G+,T$_6U|ĜUȍ%8,ȅ[05V,Z,4$7
 7:E,dEZH,ĉTAȩǐŴ?ʜ+c^ʝ01SNAKE¦SUSPiǢ²MACRj-;''bŴE-?$):%+Ŵb]%':%+<&)>')[%0%%-bŮR¦Br/,4BrVb_ʉ¬OGjEK¬ʡ
 ¦IS¦UR¬US¬ŮFLtTi:c+A¬4AbAfAV,C|CEDIǅmSɣD,ęGcśG«K,4LcśL,5McĲN,śN,5Rc<?2ROTɵa4qàqZ,/x)B,ƲaʖaF,Lp_ÄįO
 pĵąRnIZ÷žP^d(U?&EW,Ap$Ł+qO<$3U<$31ŔTŠ¬KAVYKAǾsodŉ1¶ǾsŉɢsÓB.DGE¦:Ƥ,|ŉDEzT<f,_Ó?Z(¦nMΥ¦)Ƕ¬o|Ƕ£~|Ƕ¦@3
 ɞɬ#Ș1ĩʅhDITTO²JAPeESsmDUxRȐxeDkD¥<*/I¿Ƥ1Ȕu²Ņ|Ⱦh)Ƴsʋlo[$2)_%'5;%:)Ǝ/'0]$4)¾/'7;%:)®LiT#U(%(1[%>POxn
 ²GETA²)ʑ:*2ʑ<46?/;[%4$:7/.A¾[.Fɦlo;%9źsŌ,³_P.Msʧ<%?=W;(?<D/|ĘbHeGZHOU|ɩn|jEcɤE[o1zVEL|Ŗ:h).Su>$.DE
 Ʈ[$1i¿?$0hHʞ|Ȉ¶[*/_^$0hźY<@)ŒKeA|rPEtÐd½^ư*SĴ²ôŤÖõ,<&5$&3ôčõȽ>e/[</TEzɕ|ȳFE¡łæ$G5TicTWiĕɆTYhŒ?°>MA
 SU²Ʈ|ΒIj^04]Ө.Ή1ŊɮȘ@3041hHI!GeA|*§Aca§gg§Ġ,§bb§fO^Ӕ*KgGgKU,GñbGbKfGfSǹSgZgSȃùbZbSfZfTǗTgDg§TĿŨĿbDb
 TfDfƅgNĈbNfHǘPaHgBgPgHȆżŧbBbPbHfBfPfɑgMŦbMf§YaYa§ɡU$$+fYfRaRgƭRbRf§WaWaWgșfN,V['+KA[#+%B(99ȩɒ-]C+[
 ^5cSEMI-%%4h<(G1<(9%N-:X31^&)$%3DIɕ|YO.$.7_ǭ,ɒ>Vj>Vz>Vz>VzVaVgVbVf1Ä¶?F7òŇ]O1ɒ[ORKOTf@3105hBOPOMOF
 O|*BcP,M,F,D,lNȼG,K,H,J,Q,X,ZH,ěÉR,Z,C,qafbÔAgEgAU,OU,e,i,ĸEÕ¢gU,Iȅ,ÕGN,IH,Op¶¬NN%0'31:Ú,*ǇcͷǇ-SIO
 qNǋN<#)-CǋC$$*ħH,ʒl<((ɥ<#)Ʒ%$*MǋM$$*PǋP$$):,(^#*TħTH:&+ħP/$*/-*/))?((?-)^#(<$)?));#';%)]#(ű,]3(^$)
 ^#)Cτ,$.+<-+^,)aAb[`(bEfbδ$^(bObYfȄEfșgYǟťgg1ʛ,*;.([?(c;@)ʒT>A)/D.-Pe%<-Ʒ[=/ɥ$A)?%.>(2YEym[?.;')$$
 )^'(^#)^',ɪ]C.Ʒ%$);.*?D.Ʒ>$./&0<V)$$)[N,ɪ[/)ɪ:M.$+.$$)<?)<+.$$)%'-;,+e[Q-ű,YES[#1^1(/$,[94^Q*$))>?
 )?@/YO-YA<#)E>#'gYU?C'>#)<#'gA!EA<#)E[t'9[ž2eÒ÷LmKuÐcrȚE²jE²·²ÆE²µ²ġ²Äȣ,đ²ΌȣΔ²Ʌ^)-TH²ɭVi²EA$%,MeÐh
 BOPOMOFO|*BUcZgJgGǟbiN,OfjN,IR,eN,mN,U?#'M,NGG,AmN,A<$'v,ĤOÕmNN,1À*[լ*H,1*GHcLH,ZY?&2G,*GWcKW,ObAH
 hCJK|ɉsTcWG,XG,BXG,SW,HZZ,HZG,HP,HZWG,S;#'HZT/%'P,HP/$(<&(Z,N,H,qP,SP,D,HZ,H/'',SWZ,SlSG,PD,PZ,TN,
 SZZ,S/('XWG:((G,PG,Q<Q'F0h^Ā9KUdſĿfNU,ơgHŧbHfMU]ì2hɎIZ¡Hʞ|Ǉc:m)ɥ$Ã0%À.%¿OǇ|a>+(|A[+*|A^+)|A%,)|A:,
 )|A<,(|aű|A],)|A$-+|A/-+|A;-+|A>-+|A[-)$(,U,1KOreʐ|OJEjdO|HU,@322ƒɬΞɐ;m'bWAĊWOOD,ǂn%j),SāxƄ,HAVbSO
 CIEĕNvbSPECIn,Fme]#(CjGRtULè(By,rPrSilCnL,xUDY,İVISbi¿P.SbrSǧCbnLIeCbFExIVn,rx»LF,rACHȽɬ|ʘcKmDERGk
 ɺSCHOOL,KOTf1ȱ|j|®ı%ſ*%%4Ɇ$%6FO^$8IF^$6Å^$7EV/-8Ã$%4hƮNERSHIP&,ĐŅ|;4*ɏʣ/7):ψ=1;sT;sz;sz?r5ļvKOdJUE
 UI%:,ű|Uh:')[ȗ4Đ>vm>vz»CrlMnbFEMnbSUIƚLbEXCELLilPRmltTiì,ITEM?u)ɚY,CyrClǯ,ąRbLƃŉo,Ś#mbrLIGIj:¦QNɔ?
 y,?u*Åd%d5FO$d,ʣ%y(h>ǡ8æƻJeUkY,4FEBR]#(MkěAPRŰMåJUNbJULY,AUGUx»PTEMB¢OCTOB¢NOV<$)DEC[#(hĢHG,1ERG,E
 VhLIMIT¡LIABIňY&,Đɒ?ғ+bfKaKgKñbKfSaſùbSfŁgTĿbT/ơ3/÷1<ƞ4YaYU$Ɯ5/ƛ/hĢE!|NvsrIWa1APAtfkUHUaePEaAAƭmuU
 ,mTgUj,ESUKUUDfEEKAajSU,OOMñĹgKktTfKkO.gGkj,GeMaGIGaGmIgKYU.gGIRUDAaKIRO;#(GURvU^#(ǄTy$$)WtTf>%)>#
 *Tj,KɃZE;((UROjbKEESñyUNaKOOPfSAIKURùeTIIMùIRuùiTI<#(fDAASŨESgDyĿj,NefÒTfHAITżAA%')PAtȆAArRżIASUTO
 ]#(KU>#)fBIRŧUA!DDfHUIITfBUSSYE/%(Re,HEKUTAkżESfPiIHgǌUTżiSżEEZgBEETaŪfByUTfHȡjDfHOyŧOj,M<8(fMĹŦAH
 HaMkUKŦeSYj,M$&'?#(.;#(BAkŦEGA;#'tj,<E+YAADfYAkťUe,.T/%(.RaRUPIgRUUBUƭrMU,RiTOGi,;J(;yFHOU/ʔ*5jbΟE
 L^$(Π[#)Ω/))TE>)*ȫ])(ȫ,:ù)>#*-jE^#+·^#+Æ%%,µhĢHPa1DaAU,ĜOV,PC,DMcċöCUBö1IU,[t,HEISEIdSYOUWaTAISYOŦ
 EIZg1CyPyèPA|vPqNaMU|aMaKaKB,MB,GB,Cn,KCn,PF,NF%&'FcG,1MG,KG,HZ,KHZ,MHZ,GHZ,THZ$&'L,ML,DL,KL,FM,NM
 [$'M,MM,CM,K[#'|]3,^#-]#-K]$.M|$7)C[#+?#+K<$,Êq4['+1PaKPaMPaGPa!Dc:&5qNS^0'qMqPV,NV/$'V,MV,K<#'|^b
 (PW,NW/%'W,MW,K<#'/%)K|OHM,M<#(v,BQ,CC,CD,CÊKG,CfDB,GY,ơP,m,KK,KM]Ϛ+,KlLM,LN,=G,LX,MB|ú,MŰMOL,PH,P
 M,P:#'R,SR,SV,WB,VÊM,AÊM>jFDAY|jb5TW$jz$jz$$,IV%%,Å^#+%-(%$+Ã%$+NmE]ʏ+Ɇ;-)hĢGn,@4DC0,HEXAȑ|FyƹCrtI
 VsɭVidrCEP>$(EkTHcDIFF#ULTY|tƹBEGmNu,YĳHFUL|FǩY,θCjFL#lTHskMY,HÞuğGEũ,§Tvu,TrADu,PEACbxeDxƠ,FEL=WS
 HüGrtƦSSESǢ,MODESĕiTHUSIASM,FOL=Wu,WyK|jƹDECAYöAPòAěǴEMPLèȺu|$ϙ+GR^.(PňTu|APklrǠ,mNOCiCE^/)<4+MOUƙ
 ƎS;2+rPjDEReCE%;)BYř|WA¿dCLuu|FIrcmFLUiCbDURèrTrt[9,W¢òGrSqDkKiuǛƹŭ<,(FvILY,OPȰ,OBxRUǓ,ƍIV?0*DECrA
 Sbm[#*BrAK:;+ǔuğ|ǄlGAũ;L0PœuéWkD;-'R?H);/(ɴL,rVOLUT[$+CAULDRjdkū;E)Ǟ,KEEPu|xƠ|ʪcDEVE=PMi:7)MkRYuĆI
 Di,ABɵ>C,WeDErRdGiTLsȿ,JOYū|(KEcDISÝǢ,:Ľ(èmNÖTRUÎú$L2AFTÖȸz[V)EFOr>$/@AɞYI|ȝITcĖgüIElIEX,IbŲAlĪa¹U
 OX,UfĽOlOX,fÏEX,bWȆIlBĖBgBüBIET;#'<$'bBŲBAlBĪBaB¹B/*'BUfBĽBOlB<$'fBÏB%('bBE>&'lBćBȆU:$'RX,BÌBYlBǿB
 Y,BƧBYRX;#',PIlPĖPgPI]ɬ($$'bPŲPAlPĪPaP¹P^.'PUfPĽPOlP<$'fPO>%'lPćPżâP^-'PÌPYlPǿPY,PƧPYRX;#',B<:(>:(
 BgB[:(]:)^:)$;(%;)/;(:;(BaB<;(>;)?;([;)];(B]$(fBB?$(;)(bB;<(<<(><(BȆ[<(]<)^<($=(%=(/='BƧNȺ;#'X;#':
 #'?$(EX<#(;#(<$'t;#'X;#':#'?$'OlNŎ;#':#'?$'UT;#'X;#':#'?$(RX<#(,NBYT;#'X;#',N%.(>H'<#(,HMIT;#'X;#'
 :#'P;#'EX<#(;#(<$'t;#'X;#':#'?$'UOX<#(;#(<$'OlHM]$(O:#'/&(T;#'>&(:#'?$(R:$(^-'YX;#':#'P;#'RX<#(,MI
 lMĖMgMü[/(MIbMŲMAlMĪɑ¹MUOl>/(MUfMĽMOlM<$'fMÏM>('bMUlMćMŦâ//(MÌMYlMǿMY,MƧFIlFĖFgFüFAlFĪFaF¹FOX,FfFÏ
 FUlFćFU,FâF/*'FÌFYlFǿFY,FƧVIlVĖVgVI:$'ET;#'<$'bVŲVAlVĪVaV¹VOlVOX,VfVÏV]&'ƋVUlVćVȅâV$-'VÌVYlVǿVY,VƧ
 VYRX;#',DIlDĖDgDüDIE$$'bDŲDAlDĪDaD¹D^?'DUfķD$$'fDÏD?''bDE%&'lDćDŨâD<.'DÌTIlTĖTgTüTIE$$'bTŲTAlTĪŁ¹T
 UOlT[,'TUfTĽTOlT<$'fTÏT>('bTE$''lTćTĿâT/-'TÌD?6([6(DgD^6($7)%7(/7):7(;7(DaD>7(?7)[7(DĽDķDD]$(fDD?$
 (;)(bD^8($9(%9(DŨ:9(;9)DÌNDIT;#'X;#':#'P;#'E:$(bNDt;#':$'aND¹N¶;#'X;#':#'?$':'(E:#'/$'UT;#'X;#':#'
 ?$(RX<#(,HNIT;#'X;#':#'P;#'ET<#(X<#(;#($%'t;#'X;#':#'?$':y(NUfHNOlHN:$(O:%'<((E:#'>&(lNIlNĖNgNüN:6
 (IbNŲNĪƅ¹>*(NUfNĽNOlN<$'fNÏN[''bNƋ>*(ćNĈâN%6(ÌHň;#'X;#':#'P;#'E:$(bHLŲH(lH(]$'aH(?$'UOX<#(;#(<$';$
 (fHL/$(^((bHz$'(T;#';'(:#'?$(R:$'[.(YT;#'X;#':#'P;#'RX<#(,LIlLĖLgLüLIEl<1(LIbLŲ(lLĪLaL¹LUOl:1(LUfL
 Ľ=lL<$'fLÏL>('bz$''lLU]&',Lâ<0(LÌLYlLǿLY,LƧ^/(]/'GIlGĖGgGüGIET;#'<$'bGŲGAlGĪGaG¹GUOlG]/'GUfGĽGOlG<
 $'fGÏGElG^('bGE;''lGU/'',GâG/0'GÌKIlKĖKgKüKIE$$'bKŲKAlKĪKaK¹K%-'KUfKĽKOlK<$'fKÏKElK<('bKE^&'lKćKñâ
 K%-'KÌG:8(;8(GgG[7)]7(^7)$8(%8(GaG:8(;8)<8)>8(?8)G^$(]$(fG$9(%9(G;*(bG;9(<9(>9(?9'[9(]9)GÌM<.'<#'b
 MGt;#':$'aMG¹M;-'<#(;#(<$'OlMG]$(fMG?$(]((E:#'<'(T;#']'(:#'?$(RX<#(,HXIT;#'X;#':#'P;#'ET<#(X<#(;#(
 $%'t;#'X;#':#'?$'UOT<#(X<#(;#($%'^$(]$(fHX?$(^)(bHXƋN>7'<#(;#'<$(t;#']$'aNG¹N%C'<#(X<#'fNG;$(:$(/$
 (/&';)(bNGƋHIlH;3(IbHAlHĪơ¹H:2(/2(UfHĽHOlH<$'fHÏH%('bHƋWAlWĪWaW¹W^''WUfWĽW%$'fWÏWEX,șƋZIlZĖZgZI:$'
 E$$'bZŲZAlZĪZaZ¹Z/*'ZUfZĽZOlZ<$'fZÏZ%('bZE>&'lZćZȃâZ>J'ZÌZYlZǿZY,ZƧZYRX;#',CIlCĖCgCüCIET;#'<$'bCŲC
 AlCĪCaC¹C;/'CUfCĽCOlC<$'fCÏC%('bCE>&'lCU]&',CâC;/'CÌCYlCǿCY,CƧCYRX;#',Z<;(>;(ZgZ[;(ZIElZ;<)<<(><)?
 <([<(ZaZ^<(;;(ZfZ>;(Z;'(bZ];(>;(Zȃ[;(];)^;($<(%<(/<':<(;<)<<'NZIlNZĖNZgNZüN</'<#(;#(<$'t;#'X;#':#'
 ?$'[](ZUfNZ]#(O]$'$((E%%'>%(:#'^&(R:$(^,'YT;#'X;#',NZƧN?/'<#(,SIlSĖſüSIE$$'bSŲSAlSĪSaS¹S>.'SUfSĽSO
 lS<$'fSOP»X»»>&'lSćSùâS>/'SÌSYlSǿSY,SƧSY%%'^.'$/(%/(ſ:/(;/)</(>/)?/([/(SaS^/([.(].(SfS$/(S]'(bS:/(
 ;/(</(Sù?/(^.($/(%/'//(:/)S/U'HAlZHĪZHaZH¹Z[x'<#(;#(<$'OlZH]$(fZH?$(ET;#'X;#':#'^'(T;#':((:#'?$(R:
 $(;,'YT;#'X;#':#'P;#'RX<#(±t±ĪƐCHAP±UOT<#(X<#(±ĽCH^$(]$(O±ÏïlïX±bï<((]'(±U/$(RX<#(±YT±YX±Y±YP±>n(/
 /'RRĪRRaRRUOX<#'fRROlRR:$(fRRÏRrlRr?$'bRrP]&'T;#'['(:#'?$(R:$(^*'YT;#'X;#':#'P;#'?%(:l'!lNRĪNRaNR¹
 NRO/$'fNRÏNrlNr?$'bNr?$'UT;#'X;#':#'?$(R:$(;*'YT;#'X;#',NRƧN%-'<#(¤t¤ĪģÈPƸOXƸOƸOPƔTƔXƔ¤ÏÂlÂX¤bÂPƸT
 ƸXƸƸPƸRXƸR¤YT¤YX¤Y¤YP¤<]($D'!l:D(aR¹<D(;D(ĽROl?D(fRÏ^C(bRƋ?C(ćƭRâ:C)Ì%C(ǿ^B'Ƨ>8(<8'JIlJĖJgJüJIET;#
 '<$'bJŲJUOlJ<.'JUfJĽJOlJ<$'fJO$&'lJU]%',JâJ<-'JÌJYlJǿJY,JƧJYRX;#',QIlQĖQgQüQIET;#'<$'bQŲQUOlQ<-'QU
 fQĽQOlQ<$'fQO$&'lQU]%',QâQ<-'QÌQYlQǿQY,QƧQY%%'$8'%8(/8(JgJ;8(<8)>8)?8([8);8)<8(>8)?8(J]$(fJ^8($9(%
 9(/9':9(;9)<9(>9(?9([9'JƧNJIT;#'X;#':#'?$(ET<#(]$(bNJŲN<.'<#'fNJOlNJ:$(/$(?%(>%(:#'/$'?e(JÌNJYT;#'
 X;#',N<-)Y?%(]o'YIT;#'X;#':#'P;#'ET<#(X<#(;#($%'UOX<#(;#(<$'OlNY]$(O:#'/&(T;#'?$'ĈYâXIlXĖXgXI:$'ET
 ;#'<$'bXŲX^*'XUfXOlX$$'fXÏXYlXǿXY,XY:$'RX;#',YIlYĖYgYü[2(?2(YIbYŲYUOl]2(YUfYĽYOlY<$'fYO$&'lYćɡâY;>
 'YÌYYlYǿYY,YƧYYRX;#',@A49ƒ!DǬQOTcLgKIT^>)CY]á(]Ŏ*ƋMI$Ł)LYR^ȁ)MÏYfPUT?ļ)TAlGaZU<('T;ƪ)BÌGGU/A*TU,]X
 +ZOlPYlHMO%:(VUR¤Y,VƋZaJO%ÿ(/Y(GOT]b)WfDU¤ÌLIbCY/ğ*IP%ņ)ÈlZÌS>Ö*/ę)$ȋ)KE$9'D0hLISU|*BAcPƵǗŁHaGaKaǈ
 JaCaƐDZaͲMaNƑSaZHǹNGīXaHHƶWaģYaGHaaAbbEU,gfĠbUH,ObŖMYA|TIdNA|Pf/$'CYa4BfNaJEU,1ƁŵcʅhVAI|ȝEEcEi,HEb
 W:#(i,PEbBHEbBEbMBEbKPEbMGBEb;#(FEbVEbTEbĉbD;#)HEbzbrbDEbNDEE»bÂbZEbZHEbCEbJEbNJEbYEbKEbNGGEbGEbME
 bNEbNYEbgm,HgHm,WgWm,PgBHgBgMBgKPI$1'gGBgFgVgTgTHgD:#(HgLgRgDgNDgſHgZgZHgCgJgNJgYgKI%/'gGgMgNgNYga
 e,NGe,ơe,WaWe,PaBHǘMBaKPaKPe>/'aGBƶV^T,D:#(HƑRǗNDaSaģZ[S)CaJaNJaY%Y)e^/'aG[W)ĝaOfOj,HOfW:#(ȡOfBHOf
 BOfMBOfKPOO>/'Of;#(FOfVOfTOfǡfD;#)HOf=fROfDOfNDOfSOOƔfZOfZHOfCOfJOfNJOfYOfKOO%1'OfGOfMOfNO<z(fU,āH
 ŧāWȄāPȆHȆŦBñPU$1'U,:#'FȅĿĿHŨ:#(HU,LU,RŨĈDùU¤ȃU>ĵ(CU,JĈJťñĈ;Ƴ(ŦĈU/É(fO;?'j,HfHj,WfWȡfBHfBfMBfKP/=(f
 :#)j,FfVfTfTHfDH$=(fLfRfDfNDfSO¤fZfZHfCfJfNJfYfK[;(fGfMfNfNYfbE>/'i,HbHi,și,PbBHbBbMBbKP:#(^V(b:#)
 i,FbVbTbTHbDH<r(bLbRbD%r(»¤bZΏCbJbNJbYbK/q(;#(i,GbGi,MbNbNYbÕʭi¢1ĩĶƝȝNDOLsFAdKA$U(1ĂFEiGcK>#(Tu,NI
 gBĸFAaTAaDeG>Z'ÕKUÕTO;$(-fJOÕ1Ǒ;11ĆdDf@A640həƼZEMLYa1ř]$3]&2DZE=©?$1>&3³DZä:%8]'3IOTĒ>$/^.5JERV©?$
 1>&3MjOɕ|UK©:%8]'3BROAD|ŬĒ/%6/04ƞ|YER©/%7?'2?$'Upŏ:(,]%>;>6IFI¡Yt©:%8/H<YU©/%7>,<A;,:];4ƏňTLsYUS©[
 %=;F4LiDED/(,/%7$2;:.:>&F%I4N«YN:A<TSä:%7>g4Ȯ|Dä]$2^&9EL©]$3^&9M^&7M<l7CɣO©/%7]G4I?':BI?'<_$-3]%?*
 MULTI]$+ȩə|VZǂcTi|ΖȜǮ^$2ƪ$%2hS(Vj#|ȕ[,6*UK!mĦIEdgYgŧkȓYEƭȮ&,ŬAcKAVYKaPAYEɿhə|/%*1:%*??4Wä<$//&4Z:&
 4Z;&5ZHWä>$0:z4CHä>$/:-6Z:-4Z;&4TEpÄė©^%?%)4;33TW;,5S:&4S;&7S;&4S;&5/:4T/:6$A4^@6S:&4S;&6_;k8<p4ĔE
 D/'*$%5ɠə|%a,dȮ&h;g=EFd]Á,EhBvɶ*AcKañǟbrbTAbfNYggLaPa.g.EbzEEbǄ<&(aNDAaNJAĨM,SUŦUǚgSgÂUX»ćK<Ź)lNUA
 bNĈJUAbYOQ¤ťUQ,YaNģKEćPEUX?ž)NTEbPUbWUbP%Ƈ*ƭLU<ų*rć!bKi,NGKWA?#(]ʟ)¤fPUAbFU,FĤWaNaLgPg=Q,KfMBi,Ri,
 Mi,MaTgKgMfMBAaTElKPaɺNTUùvBaFAvAbKOVUñOGHĤ1ŶôKOQNDjdTUKWiTIq1%>(LgĶƣĩɽƝ@A700ɠCHmESsŖYm|Pu,4YeG^#)
 YmŢĸYeG^#+m|QU>$(?#(m|R:$*RUcƢ!-êǐŖĜ]$8ȏ[$4=W[$4^*):%7:-5û-xEM:&-[%Bȏ?%>=W?%4>.3/&Gǯ/1;>09^/;$,=>%
 :¶|ődɊýBkcčo|Ǝ|Ƴbʦéÿd~áǎÓǎ2ß[%=xRã£êTjb4=W]#(hȤEGYPTO=GǬþ,1ř^%?$)@Ő](?m[(3HiG©>$0;&3TZ«TZ$&4rSIL=©
 ^$3]Õ5UtR/',$%1:'@pŵ©$&AśF,4q1[+2AA«Aa$&3O«AO$&4U«AU$&4V«AV$&5p?f1©/&B?)4Y«AY%Š<Cšř^%?%)3Kʎä;%9$(:
 ư](//&B[.@£?*7/'M>ƭ6Ki|L©^$4%'3Lpǯ<./]%6><;OpŇ$2+ʁř>&F;*<OP©/%7?'4O«O%h4PĻ:Ґ+|ʯ$'K:+:FLǧĥ©>%;;(:ȬI
 RrL|ŗ©$&?;L4Q%7OQ%7QQ;iFQ;iHR|ROTɵĒ$%5:'4UM<':UM?';V[2FV[2HVY«VY$&4ISIGOTH#|Z©:%7[à5Ɖp/1.[%=[(8$PF
 ;'O[64iD©>$0;&3ET«ET$&3IS«IS$&3Cj«CjɠUqŮDUMdLÚMÚNÚRÚ1śRUM«TUMdUM$õ4mSɣD©$%6:':F:'9F:';Gɱ>$-1Ĳ[%3?)
 3ĮL,]'7L]-;R/29R:';S:'9S:';T:'9TɠßΐącƣÙʆ0ȤSnƿ=??)$%4^>:H«LpȌ£Ǖl*Sm?ŀ+;Č7Npʯ?%<;j4pBk©%%75PntnƺdHp]
 $/%e4B<ã?B<ãAFĻ«Fp:Ã:O(PUK|Aä%%5<'<O<':O<'<U<':U<'4GpOBLIɍ;6/%&:%7:K<)EK<)GN<)EN<)GR<)ER<)GS<)ES<)
 GHĭd³çbƬG,LpǕl>Í1g1śQ%¢:K,4Tdπ±gƲa1ĲƲA])3ŬA«Ŭ>&4U<k=U<k?ΪĒ$%5:';I:'9I:';U:'9U:'3ÞƦLĥ|O©:%8]'3Ƴ#eA|
 W©/%7?'3Cp^·1SǻZ^%6DpÙ/ť1]L2[&>^f4]&=©?&H@A7D0%+3Ȕ%ü/©?%<%)(3d_TƉ[$(5,_WYNN?Ð4ÄSCOTS|S©<%:>94IGMOI
 D['*$%5:.'F2ɠ;)+CdF,QhȤ³ŊH?H)?%<EPIɕȴSΊ|I?.=HĻc§ƆOE$1+śĮM,1:.5³F,4PdÓM,I|ŇaȗMhSY=TI|NAG.|*AdIcȉDVI
 SVka*UdbOcȉHASeTa*KOdKHfGfGH/&+eU](0COdCHfJfJHfTTfTǡ:Բ*HfTf;$(fDHfNfPfPHfBfBHfMfRfLfRRfSfHOcØa4gU,
 bOOcPOETRYÐƓ3ĺǷ;4+@A830hNyƙmD#|ȶξdɹqjsɋÎΈ,Æ;%.Scǣ²ʀHÞ<$+ʥ²QUeTITYÐ<1'40hƂGS-PA|*KAcǈGaNG?Ϙ,Jĝ[Ω-aN
 aPƵǘMaͲDZaW]Ϛ,§aYaRƑģSīa]A)fQaXƶGGaEbγWAdYa1*TTAcT</(DaNNaǷYaVO#ELãŢ/$)¡HaAȇRt¡FaγRaİFIX]$0*CΜU,ȈĎ
 ²_<$-ôƀ,ô_ƀ/E'ǙSAURÛT!|[e0cɁa1*AcAagIgĠȅOCn#|RdϒcbEbAgfOfAña/L*GH>L3JH^L*Ta>@+:m'aNN^N/DH:O2BHaM]L
 .V%M*S<M+ǅ1ʜ&|HAAƭØAAd>574ϒd>52ÍȀƴ$G.<A'Cbή%$)ʈE;*'E0ȩDEVeAGA.|ȧdjbʣ*Adñ;B+RaVIcȉɰAh%--&|ȭu;9/c%$.
 [<+_:%6?$/·dÆbɰAcPœPIKa1GAP|ʛ,CArlĎžȉͻ,JAm|Ĥ*AY%O0YhKAYAH|L$?gɓ;e*NG>А-?d*aHT$b/MaDǘRaYƑWaTHīVaCaa
 ObgO;Ó,UEdbǟbOcŖP=PHUdCnYa4:$)cȉCWIĺSHYAhrJeG;Ä/:2*T;Â,ǘMaC:Å,S/p+YaWīMBA;С)NDĝJaa1ØIdU,%l*Aǟǟ^s5N
 GdN,R,H,1Ȁa@A95F,ƫÐhHʞļOSEjG|ʒT-MǋMc/$*PIEâ%$*SIOS$$+CǋC,RǋLƷ%$*ͷ>$)ɥ[%)ɥ/-)$$)$-)[&/<$/ɪ[$.:0(^#)
 /01ħKH,:+(Ʒ%$)]/*%$)?()/*(^#(-TħTH?$):)*/$+ħH,>0(^&'>2*ű-?-(,ű>&/:0(<$/?+,ħPH;%*ħH?.(;&)YEymħH%K'Ǚ
 JAVeESE&|PeYA$U'cCECǖ(Yk,WIGNYe<Ú/I|KAWI]Ú+PA|CErK;`'|zzl4!SWADIc:Y*ɓSASǖMURD?d(d^#*NGaC:$-<d)|/$)
 JAĆHAPRe^Ý,d?$,cDD;$1N/(+T;*-%&3aP>%-B^#-<á+dAGľcLaWaS<*(/)0dcHAÍ:>(|TELU,ØTkľdTO=ÕWULU,4MELIKdSUK
 %$'iDUTdTnu,DIRG>,(bPEPET<u4KErTdPiGKn,CAKRa1PeGKj,)rRiGGe,o;$.PADA|eDAPcMADYaLUHÌȿU,/)(AlLuSaLľSg
 ADEGd<#'cPISELÔ1Į/*(]$)?X(CF/)(ReGKEP$ð`9Db1>+(TIRTA|TUǂEScISi-ISihMεSHe|GHAdƐJ;Ď*B^H+]%)SAW,Ȣ%(/r
 DUPL#è*TAI|(u|NYa4F/Ě,JaJ$Ę31%'-ȧ,4>9P1^-4ǅ4DaD[Ğ-@AA¼CHA^Μ/g>Ï+]ĩ4UE;w';պ*/4-NHUbN[#(J;ĩ4UbN;7)Pa
 P<Ī2UbMaBB/ī/]Ī/1>Ĩ7EgU,ObfAgAĠE>f4YAdRƑW^7(4ƒ*ÀKdG,NG%(4ÀÕ*ÀCHdlN,P,Y,RȼSS%(:M,4H%-'5ƒ^b_A5C,1ƁȇR
 nc;ĸ6Ʃ%$+^d4KHvTI|GAd$ŒE:J*<E);Ԋ,1Ȣ>*0>g2<%1XAdZaRa1Ψ;%+OAYdQN,HM,1ĂAITj]Ͷ/d>>+1*%&)RƴPAO|Kki|TjEĺ
 ?g,[$(Ğ4?#(5,1*SHWsPA(ľ|Ɛ4Èh$('VIET|*ßKOdêKŃKHńKH<$+>$-HŃGńGŃNGńNGŃCńCŃCHńCHŃSńSŃNYńNYŃDńDŃTńTŃTHń
 THŃNńNŃBńBŃPńPŃPHńPHŃFńFŃMńMŃYńYŃRńRŃLńLŃVńVŃHńHŃńOcMAI|Kĸɀ:¥*UbU,b[%+ȵ[%*IAdUEaUaAUbåe,vcŖ$''EK,4
 NUEÕTHfSjG[q'DBcĂKjd$&)Sv,HO|HOgKOI|KOIhǄTEIĆYEK|*EdfC<Ɲ>:ƙ,cØIg4UU,ǸA>#'UcïIKHe,AHeG|KHUDv,eJgȝrP
 ETIì²ʢ]$4ØɁa%ő,B01hEΡTTHUcTTHI;4(aTĉE<#'bTǡ/((9%6'U;#'I$7(aD[Ֆ)DHbDD;&)11,DZŨZgDZAaDZEbDZbDZ]%(20,
 CCHHA<#(U<#(I>$)?$)EE>#(<#)<')8,BBaBBȆBI$$'aBBEbBBbBB/&(30hŮBkƜnƂdA:Ȝ,-ʖa°*b$'*bEpF=U.ÉLiIS|F,ƬG>ʄ
 6LpÓ(ZY|q5_ÄįÄRudM^)6N[$6i[-6<40f5½ž3çOƕÓOE×OEƕ6ýž4O|Ą-f6?+0xIRRŔR,1śRpo|zG«?%)ĳţzd_R,R%86_;%7ƬR%:
 )%B*ǵEȳEÉUpÙ$0-U|Bk;%:I×UgUp)ė±g4½ßo|ƛ6)SE.FdX|%&75à)zG,8eD%&3½/)*Y<18hȢBrVEpÓ[$(]G2HiGd?a;$a/d]83
 hŮSAƟ|Yt]Ҋ0çObUfÓnƂhǍśŬaŮDZȪpȌdTS]%?×Rp[7/ɠ§ĮWc)ǁo|ǁ@AB70hïɿEsĲAdbgfȅ,GaKaGbGgGfGU,GV,ơbHgHfHŧV,La
 LbLgLfLU,LV,οMĈaHƅÁNbNgNfNĈV,QUaQUbQUgQUfQUU,QUV,SaqϓùV,DaTaDbTbDgTgDfDŨV,DLaT:#(bTLgTLfTLĿLV>ɣ*bT
 SgTSfTSĿSV,WașgWfWȄV,YA>ï9KOKdSv,(gMIlPaNA±ŰTŰKHOĈGOU,ǡȄAgYĸHUK,āgPHv,tIYaGOK,JHv,!gBaJŰDŰGHOŨHOȆH
 v,KOK|LjSU>-(^#*/.'^#+PA]#+N]#,ƿ^#*]/($$+?(+cØj¹4m¹e¹Yi¹SȎ¹;#(ïm¹Nľ<Ā+EgLɶIYEK,APUN]#']X(F0,<Ȥ]@D7
 B0[ȅ,Jľ]ȅ)O-YEOcO-O-gYO-A;#(E<#'EfU-Y<#(I-gYU%%(U-fEU-A;#'EO<#(;#'fI-YA>#*E<#'E$$(bI/+'^#';$(U,I-g
 A!EA-A?#*:1(CB,1JO?0+NǋN;Ƿ)c%$)Cħě[Ȍ.$$):Ȗ0<ȗ;$$/Ʒ/ș0%$*/,+:$*:Ȉ+[Ț;Ʒ%Ȅ/<Ȓ0;ț/:&)^ț/-ɥ?$*PħP<&+YES
 ű:$*$ȉ.$**ɪ$>);,)<>($$)%3)<$(:1)^$(<%*:ȝ-<$)$;*$1/%$)>F)$1+[$*?))$ȭ.%*-<(0[*/[B,;&'^()^#(^ȱ1?*)>I.
 <$)%+.[')Pe?#'%$(/,)^#(%,0[K*%$)^>*Pe>ȯ.Pe].6/E+^1):$,^(*],([()$$*^:-[ȴ.,[>*%<(%$+/0,"

end Wirework.Text.CharName
