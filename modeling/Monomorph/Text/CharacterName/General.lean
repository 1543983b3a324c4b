/-!
Shortened names of the characters below U+2000, which belong to most of the scripts in use.
-/

namespace Monomorph.Text.CharacterName

/-- Runs of these characters: the first one, and the text of their shortened names in pieces. -/
def generalRuns : List (Nat × List String) := [
  (0x20, [
    "SPACEaEXCóŗaQUOTŗaNƿÂaDOĪRÂaĢñÂaAMĢSäbPOSTROPHEaÃǏSISaÄǏSISaǙaǳÂađ=aHYPH+-M%USaǠaSOLIDUSaŦ",
    "aįaĤaĥaĴaŁaľaŉaŊaŋaCǤaSEMICǤaƠÂaƽƪaƣÂaQUESĳÏađM_CIÆ>aƨƌb|BcCcDcEcFcGcHcIcJcKcLcMcNcOcPcQcR",
    "bŷb|TcUcVcWcXcYcZaĒǓïaȊSƭOLIDUSaàǓïaƷACñaėķaũ ACñaƨƂb;BcCcDcEcFcGcHcIcJcKcLcMcNcOcPcQcRbŎb",
    ";TcUcVcWcXcYcZaÃƶY ïaĀķaÄƶY ïaƍ"]),
  (0xa0, [
    "NO-BREAK,PACEaƖEXCóŗañÂaPĊDÂaCURR+CYÂaY+ÂaBROK+ĎaSEŜÂaţaCOPYàÂaFEM%ǴORD%Æ%DIC>ORaǢ÷ÈƯQUOTŗ",
    "aNOTÂaSOFT HYPH+aREGISÛEDÂaźaDEGREEÂaǳ-M%UƪaSǱSǚČeƋaę ACñaMICROÂaPILCROWÂaðöaCEDIĪaSǱSǚÍa=",
    "SCUǒORD%Æ%DIC>ORaǶ÷ÈƯQUOTŗaVULGAR FRAŜ ÙŕÛnȄmÿŕÛSaƖQUESĳÏaƨƌ&ũdędȌdƍdţdŻŒcEb|C&CEDIĪcĂũdęd",
    "ȌdţcI&ũeęeȌeţcETHcN&ƍcŸũdędȌdƍdţaMULTIPLICìÂaƨ|O ĐcƁũdędȌdţcY&ęcTĞNbŎ!RP,bƂ&ũdędȌdƍdţdŻŒcE",
    "b;C&CEDIĪcĂũdędȌdţcI&ũeęeȌeţcETHcN&ƍcŸũdędȌdƍdţaDIVISŖÂaƨ;O ĐcƁũdędȌdţcY&ęcTĞNcY&ţbƌ&źbƂ&ź",
    "bƌ&ƧbƂ&Ƨbƌ&OGÍKbƂ&OGÍKb|C&ęb;C&ęb|C&Ȍb;C&Ȍb|Cſb;Cſb|C&ǭb;C&ǭb|Ʊǭb;Ʊǭb|D Đb;D Đb|Ăźb;Ăźb|ĂƧ",
    "b;ĂƧb|Eſb;Eſb|ĂOGÍKb;ĂOGÍKb|Ăǭb;Ăǭb|G&Ȍb;G&Ȍb|G&Ƨb;G&Ƨb|Gſb;Gſb|G&CEDIĪb;G&CEDIĪb|ÞȌb;ÞȌb|",
    "H Đb;H Đb|I&ƍb;I&ƍb|I&źb;I&źb|I&Ƨb;I&Ƨb|I&OGÍKb;I&OGÍKb|Iſb;ö<ưIbǮLIG>ƹIJbßLIG>ƹIJb|J&Ȍb;J",
    "&Ȍb|K&CEDIĪb;K&CEDIĪdRAb|Ǎęb;Ǎęb|ǍCEDIĪb;ǍCEDIĪb|Ǎǭb;Ǎǭb|Ǎðöb;Ǎðöb|L Đb;L Đb|N&ęb;N&ęb|N&C",
    "EDIĪb;N&CEDIĪb|N&ǭb;N&ǭd PRECEDÀBY APOSTROPHEb|+Gb;+Gb|Ÿźb;Ÿźb|ŸƧb;ŸƧb|ŸÈęb;ŸÈębǮLIG>ƹOEbß",
    "LIG>ƹOEb|R&ęb;R&ęb|R&CEDIĪb;R&CEDIĪb|R&ǭb;R&ǭbŷ&ębŎ&ębŷ&ȌbŎ&Ȍbŷ&CEDIĪbŎ&CEDIĪbŷ&ǭbŎ&ǭb|ǨCE",
    "DIĪb;ǨCEDIĪb|Ǩǭb;Ǩǭb|T Đb;T Đb|Ɓƍb;Ɓƍb|Ɓźb;Ɓźb|ƁƧb;ƁƧb|ƁŻŒb;ƁŻŒb|ƁÈęb;ƁÈęb|ƁOGÍKb;ƁOGÍKb|W",
    "&Ȍb;W&Ȍb|Y&Ȍb;Y&Ȍb|Y&ţcZ&ęb;Z&ęb|Zſb;Zſb|Z&ǭb;Z&ǭcȇ,cB Đb|Bśd&ńüb;B&ńüb|TÍżb;TÍżb|ġ OcCśb;",
    "CśbƌFRICÓDb|DścƱńüb;ƱńücŏDEL*b|ŰEbŷCHWAb|ġ EcFśb;Fśb|GśdAM=b;HVb|IO*d ĐcKśb;KścǍücóBDA Đb|",
    "ŏMcN&Ãăb;N&ƇÄ<Gb|ŸðƍdĞNb;ŸĞNb|OIb;OIb|Pśb;Pśb:YRb|TÙČb;TÙČb|ESHb:ŰESH LOOPb;ǨP.>Æăb|Tśb;Tś",
    "b|ǨȁcƁĞNb;ƁĞNb|UPSIǄcVścYśb;Yśb|Z Đb;Z Đb|EZHf ȊSEDb;EZH ȊSEDeÞŅb:æĐb|TÙǑb;TÙǑb:ƖGLOTTȍń Đ",
    "cWYNNcDâÆCLICKcLǛÆCLICKc.VEO~R CLICKcRETROF<X CLICKb|DZ&ǭd ƴ;Z&ǭb;DZ&ǭb|LJd ƴ;Jb;LJb|NJd ƴ",
    ";Jb;NJbƌ&ǭbƂ&ǭb|I&ǭb;I&ǭb|Ÿǭb;Ÿǭb|Ɓǭb;Ɓǭb|ƁţÐźb;ƁţÐźb|ƁţÐęb;ƁţÐęb|ƁţÐǭb;ƁţÐǭb|ƁţÐũb;ƁţÐũcŏ",
    "Ebƌ&ţÐźbƂ&ţÐźbƌſÐźbƂſÐźbƌĂźbƂĂźb|G Đb;G Đb|G&ǭb;G&ǭb|K&ǭb;K&ǭb|ŸOGÍKb;ŸOGÍKb|ŸOGÍKÐźb;ŸOGÍ",
    "KÐźb|EZÞǭb;EZÞǭcJ&ǭb|DZd ƴ;Zb;DZb|G&ęb;G&ęb|HWAIRcWYNNcN&ũb;N&ũbƌ&ŻŒÐębƂ&ŻŒÐębƌĂębƂĂęb|O Đ",
    "Ðęb;O ĐÐębƌ&ÈũbƂ&Èũbƌ&ƖƧbƂ&ƖƧb|ĂÈũb;ĂÈũb|ĂƖƧb;ĂƖƧb|I&Èũb;I&Èũb|I&ƖƧb;I&ƖƧb|ŸÈũb;ŸÈũb|ŸƖƧb;",
    "ŸƖƧb|R&Èũb;R&Èũb|R&ƖƧb;R&ƖƧb|ƁÈũb;ƁÈũb|ƁƖƧb;ƁƖƧbŷ&đ=ĬbŎ&đ=Ĭb|Ǩđ=Ĭb;Ǩđ=Ĭb|YOGHb;YOGHb|Þǭb;Þ",
    "ǭb|N&ƇÄ<Gb;Ʊƶb|OUb;OUb|Zśb;ZśbƌſbƂſb|ĂCEDIĪb;ĂCEDIĪb|ŸţÐźb;ŸţÐźb|ŸƍÐźb;ŸƍÐźb|Oſb;Oſb|OſÐźb",
    ";OſÐźb|Y&źb;Y&źcǍƶcN&ƶcǨƶcö<ưJcDB DIGRčcQP DIGRčbƌ Đb|C Đb;C Đb|ǍücǨǡƛbŎ&SWASH Ņb;Z&SWASH ",
    "Ņb|GLOTTȍńb;GLOTTȍńb|B ĐcUĎcŏVc^Đb;^Đb|J Đb;J ĐbǮūQś Ņb;Qś Ņb|R Đb;R Đb|Y Đb;Y ĐcŏAc.ącŏ.ą",
    "cBścġ OcC&ƶcƱŅcDścŰEbŎCHWAgśb;ġ EcŰġ EgścCLOSÀŰġ Ecö<ưJ ĐcGśbŎǚGb ūŤGb;GAM=cRAMS ĞNcŏHcHśd",
    "+GścI ĐdO*b ūŤIb;ǍðƍdBELTdȁc<ZHcŏMe&Ƈ<GcMścN&Ãăeȁb ūŤNb;üRÀOb ūŤOEb;CLOSÀOMEGAcPHIcŏRe&Ƈ<G",
    "eścR&Ƈ<GeŅeFĆăcŰR&FĆăb ūŤReƖRbŎśb;ESHcö<ưJ ĐÐăbŎQU> ŰESHb;ESÞƶcŏTcǨȁcUĎdPSIǄcVścŏVdWdYb ūŤ",
    "Yb;Z&ȁeƶcEZHeÞƶb:GLOTTȍńcąRYNGEÆVOICÀFRIC>IVEcƖGLOTTȍńbËTRETCHÀCb:BI~BIÆCLICKb ūŤBb;CLOSÀġ",
    " Eb ūŤGśeHb;J&ǊED-ŅcŏKb ūŤLb;Qśb:GLOTTȍń ĐcŰGLOTTȍń Đb;DZ DIGRčdEZH DIGRčdZ DIGRč&ƶcTS DIG",
    "RčdESH DIGRčdC DIGRč&ƶcF+G DIGRčcLS DIGRčdZ DIGRčb:BI~BIÆĢCUSSIVEeDâÆĢCUSSIVEb;ŏÞFĆăhÐŅaMO",
    "DIFIþūHjśiJiRiŏRkśiŤƖRiWiYg_:PRIMEiÈPRIMEiŏđ=hÇPOSTROPHEh:Űđ=iÄāǀiÃāǀiGLOTTȍńiŰGLOTTȍńiÃši",
    "ÄšiôšićšiƷACñaǭaMODIFI_:Āķiźię ACñiũ ACñiėĀķjźjũ ACñję ACñiȒƉCǤiāȒƉCǤiñRÀÄāǀlÃāǀiôTŀićTŀiǳ",
    "ÂiM%UƪaƧaƲŒaŻŒaOGÍKaSMÜ ƍaÈę ACñaMODIFI_:RHOTÕăiǊ ACñgþūGAM=iLiSiXiŰGLOTTȍńg_:EXTRA-ŬTÍĎiŬ",
    "TÍĎiMID TÍĎiėTÍĎiEXTRA-ėTÍĎiYşDEĚTÁTÍÏjÎ DEĚTÁTÍÏiVOICÉiUNASPIR>EDiÈAPOSTROPHEiėćšjôšjÃšjÄ",
    "šjǀiðũ ACñjÈũ ACñkę ACñiėƍiRAISÀCǤiBEGşŬTÍi+D ŬTÍiBEGşėTÍi+D ėTÍhËHELFh:ġŪLFiėÃÅađīÁũ ACñd",
    "ę ACñdƷACñdƍdźdƃķdƧdƲŒdţdăãdŻŒdÈę ACñdǭdĀǒŒdÈĀǒŒeũ ACñcƵǦīDUcÁƖƧdŏđ=ãcÉǋ=ãcÁŰđ=ãcÉǋ= őàcÁũ",
    " ACñĬdę ACñĬdÃTŀĬdÄTŀĬdÃƯŒdĞNdÃāǀĬdôTŀĬdćTŀĬdǳÂĬdM%UƪĬdP.>.IZÀăĬdȁĬdȎdţĬdǀĬcÉǋ=ĬcƵEDIĪcÁOG",
    "ÍKdĀķĬdBRIDGEĬdƖÈARCHĬdǭĬdƷACñĬdƧĬdƖƧĬdƍĬdźĬdėķdÈėķdȃƃ~YcÉ,ĞTȑƃ~YcÁȇȑƃ~YcÉ,ǣSOLIDUS ƃ~YcÁȇ",
    ",OLIDUS ƃ~YdÄāǀĬdƖBRIDGEĬcÉģĬdõAGULLĬcÁXãdĀƍdÈƃķdũ TÍÏdę TÍÏdǫ ǰM+IfKORONISfDI.YTIKA TONOS",
    "fYPOƊdBRIDG^ŒdƽƪĬdÈĀķĬdÃƯùdǟȃŒdHOMOTHEňãd.MOST ĹãdÃÄÅĬdĻÅĬdGRčEM^JO%_dÄšãdÃāŻŒdF_=*dXĬdÃšĬ",
    "dÄšĬfÐôšĬeāŻŒdƲőàdǙĬdÈǀĬdZIGZAGãdÈƧĬfeźfĬeƍeƖƧeŐĬdƨƂe;EfIfOfUfCfDfHfMfRfTfVfXaǫ|HE*b;HE*bƌ",
    "RÔIC,AMPIbƂRÔIC,AMPIb NUM_.ÂcēNUM_.Âb|PAMPHYLIÓDIGAM=b;PAMPHYLIÓDIGAM="]),
  (0x37a, ["ǫ YPOƊbßŰLUN>EĽG=ÒcǾÀLUN>EĽG=ÒcŰǾÀLUN>EĽG=Òb QUESĳÏb|YOT"]),
  (0x384, ["ǫ TONOScDI.YTIKA TONOSb|.ą&TONOSb $O TE<IAb|EPSILƫTONOSd*&TONOScIO*&TONOS"]),
  (0x38c, ["ǫ|OMICRƫTONOS"]),
  (0x38e, [
    "ǫ|UPSILƫTONOScOMEGA&TONOSb;IO*&DI.YTIKȓTONOSb|.ącBE*cGAM=cDEL*cEPSIǄcZE*cE*cTHE*cIO*cKAPPA",
    "cóDAcMUcNUcXIcOMICRONcPIcRHO"]),
  (0x3a3, [
    "ǫŷIG=b|*UcUPSIǄcPHIcCHIcPSIcOMEGAcIO*&DI.YTIKAcUPSILƫDI.YTIKAb;.ą&TONOScEPSILƫTONOSd*&TONO",
    "ScIO*&TONOScUPSILƫDI.YTIKȓTONOSc.ącBE*cGAM=cDEL*cEPSIǄcZE*cE*cTHE*cIO*cKAPPAcóDAcMUcNUcXIc",
    "OMICRONcPIcRHOcƻSIG=bŎIG=b;*UcUPSIǄcPHIcCHIcPSIcOMEGAcIO*&DI.YTIKAcUPSILƫDI.YTIKAcOMICRƫTO",
    "NOScUPSILƫTONOScOMEGA&TONOSbǮKAIÒb BE*ÒcTHE*ÒcUPSIǄśÒgLƫęÐăÒiţÐăÒcPHIÒdIÒcKAIÒbÇRÔÕKOPPAbƂ",
    "RÔÕKOPPAbËTIG=bŎTIG=b:DIGAM=b;DIGAM=b:KOPPAb;KOPPAbËAMPIbŎAMPIaCOPňŷHEIeŎHEIe|FEIe;FEIe|KH",
    "EIe;KHEIe|ĞIe;ĞIe|GÎIAe;GÎIAeŷHI=eŎHI=e|DEIe;DEIaǫ KAPPAÒcRHOÒcLUN>EĽG=Òb:YOTbǮTHE*Òb LUN>",
    "^EPSIǄÒcŰLUN>^EPSIǄÒbŷHObŎHObǮLUN>EĽG=Òbŷ$bŎ$b RHO ĐÒbǮŰLUN>EĽG=ÒcǾÀLUN>EĽG=ÒcŰǾÀLUN>EĽG=Ò",
    "aCYRILLIC|IĂũkOjDJEjGJEjUKRA%IÓIEjDZEjBYELORUSSI$-UKRA%IÓIjYIjJEjLJEjNJEjTSHEjKJEjI&ũiŷǣUi",
    "|DZHEiƌi|BEjVEjGHEjDEjIEjZHEkEjIiŷǣIi|KAjELkMj+jOjPEj_jESjTEjUjEFj!jTSEjëiŷ!jHÔi|HŞÂjY_Uiŷ",
    "OFTÂi|EjYUkAiƂi;BEjVEjGHEjDEjIEjZHEkEjIiŎǣIi;KAjELkMj+jOjPEj_jESjTEjUjEFj!jTSEjëiŎ!jHÔi;HŞ",
    "ÂjY_UiŎOFTÂi;EjYUkAjIĂũkOjDJEjGJEjUKRA%IÓIEjDZEjBYELORUSSI$-UKRA%IÓIjYIjJEjLJEjNJEjTSHEjKJ",
    "EjI&ũiŎǣUi;DZHEi|OMEGAi;OMEGAi|Y>i;Y>i|IOTIǻEi;IOTIǻEi|ƦáYUSi;ƦáYUSi|IOTIǻƦáYUSi;IOTIǻƦáYU",
    "Si|BIG YUSi;BIG YUSi|IOTIǻBIG YUSi;IOTIǻBIG YUSi|KSIi;KSIi|PSIi;PSIi|FI*i;FI*i|IZHITSAi;IZ",
    "HITSAi|IZHITSA&Èũ ACñi;IZHITSA&Èũ ACñi|UKi;UKi|RĊD OMEGAi;RĊD OMEGAi|OMEGA&TITLOi;OMEGA&TI",
    "TLOi|OTi;OTi|KOPPAi;KOPPAgÕúƪađīƵYRILLÕTITLOjP.>.IZìjDASIA PNEU=*jPSILI PNEU=*kOKRYTIEjç ú",
    "ƪjMILLŖƪaCYRILLICŷǣI&ŅiŎǣI&ŅiŷEMISOFTÂiŎEMISOFTÂi|_&ňKi;_&ňKi|GHĂUPTURNi;GHĂUPTURNi|GH^Đi;",
    "GH^Đi|GHĂðăi;GHĂðăi|ZHĂȀi;ZHĂȀi|ZĂȀi;ZĂȀi|KA&Ȁi;KA&Ȁi|KA&Ʈƛi;KA&Ʈƛi|KA Đi;KA Đi|BASHKIR KA",
    "i;BASHKIR KAi|+&Ȁi;+&ȀiǮLIG>ƹ+ GHEißLIG>ƹ+ GHEi|PĂðăi;PĂðăiƌBÚSIÓ!iƂBÚSIÓ!i|ES&Ȁi;ES&Ȁi|TĂ",
    "Ȁi;TĂȀiŷTRAĸUiŎTRAĸUiŷTRAĸU ĐiŎTRAĸU Đi|!&Ȁi;!&ȀiǮLIG>ƹT^TSEißLIG>ƹT^TSEi|ë&Ȁi;ë&Ȁi|ë&Ʈƛi;",
    "ë&ƮƛiŷH!iŎH!iƌBÚSIÓëiƂBÚSIÓëiƌBÚSIÓë&ȀiƂBÚSIÓë&Ȁi:P.OCHKAi|ZHĂƧi;ZHĂƧi|KAśi;KAśi|EǍŅi;EǍŅi",
    "|+śi;+śi|+&Ņi;+&Ņi|ÚKASSIÓëi;ÚKASSIÓëi|țŅi;țŅjP.OCHKAiƌ&ƧiƂ&Ƨiƌ&ţiƂ&ţiǮLIG>ƹA IEißLIG>ƹA I",
    "Ei|IĂƧi;IĂƧiŷCHWAiŎCHWAiŷCHWA&ţiŎCHWA&ţi|ZHĂţi;ZHĂţi|ZĂţi;ZĂţiƌBÚSIÓDZEiƂBÚSIÓDZEi|I&źi;I&",
    "źi|I&ţi;I&ţi|Ÿţi;Ÿţi|üRÀOi;üRÀOi|üRÀŸţi;üRÀŸţi|Ăţi;Ăţi|Ɓźi;Ɓźi|Ɓţi;Ɓţi|ƁÈęi;ƁÈęi|ë&ţi;ë&ţi",
    "|GHĂȀi;GHĂȀi|Y_Ɓţi;Y_Ɓţi|GH^ĐÐăi;GH^ĐÐăi|!śi;!śi|! Đi;! Đi|KOMI DEi;KOMI DEi|KOMI DJEi;KOM",
    "I DJEi|KOMI ZJEi;KOMI ZJEi|KOMI DZJEi;KOMI DZJEi|KOMI LJEi;KOMI LJEi|KOMI NJEi;KOMI NJEi|K",
    "OMI,JEi;KOMI,JEi|KOMI TJEi;KOMI TJEi|ŰZEi;ŰZEi|ELśi;ELśi|L!i;L!i|R!i;R!i|YAEi;YAEi|QAi;QAi",
    "|WEi;WEi|ĖUT KAi;ĖUT KAi|EǍðăi;EǍðăi|+&ðăi;+&ðăi|PĂȀi;PĂȀiŷH!&ȀiŎH!&Ȁi|+&Ãăi;+&Ãăi|DZZHEi;",
    "DZZHEi|Dëi;Dëi|EǍȀi;EǍȀ"]),
  (0x531, [
    "ARM+I$ƌYBg|B+hGIMhDAhECHhZAhEHiThTOhZHEh%IhLIWNhXEHhCAhK+hHOhJAhŠDhëHhM+hYIhNOWgŷ!g|VOhÔhP",
    "EHhJHEHhRAgŷEHg|VEWhTIWNhREHhCOhYIWNhPIWRhKEHhOHhFEH"]),
  (0x559, [
    "ARM+IÓMODIFI_:ÃāǀgAPOSTROPHEgEMąSISÏhXCóŗf$ǋ=fÓQUESĳÏgABBREVIŗf$;ŏAYBgƂYBg;B+hGIMhDAhECHhZ",
    "AhEHiThTOhZHEh%IhLIWNhXEHhCAhK+hHOhJAhŠDhëHhM+hYIhNOWgŎ!g;VOhÔhPEHhJHEHhRAgŎEHg;VEWhTIWNhR",
    "EHhCOhYIWNhPIWRhKEHhOHhFEHgßLIG>ƹECH YIWNg;YI ĐfÓǠgHYPH+"]),
  (0x58d, ["ǶFACÁARM+IÓEÛNITYÂaǢFACÁARM+IÓEÛNITYÂaARM+IÓDRAMÂ"]),
  (0x591, [
    "HEBREW ACCǲETNAH*jñõGOLk,H.SHE<TjCǲZAQEF Q>$rGADOLlTIPE!lREVIAlZARQAlPASH*lYETIVlTEVIRlG_E",
    "SHq MUQDAMnS!YIMlQARNEY ĚAlTELIS! GEDO~lPAZ_l>NAH !FUKHlMUNAHl=!PAKHlM_Úo KEFU~lDARGAlQAD=",
    "lTELIS! QET$AlY_AH B+ YOMOlO<lILUYlDEHIlZ%ORgÏ =SORAȈg ŽŪVAi !*FõGOLm PA*HnQAěSjHIRIQjTS_E",
    "iõGOLi PA*HjQAěSjHOóm !Sþĝ VAVjQUBUTSjDAGESH OR =PIQjMETEGhPǷ =QAFhŽ RAFEhPǷ PASEQhŽ,Hşöjş",
    "öhPǷ,ØPASUQgÏ Ŀöiēög PǷ NUN !FUÚhŽ QAěS Q>$"]),
  (0x5d0, [
    "HEBREW:ĖFhBEThGIMELhDĖThHEhVAVhZAY%hHEThTEThYODhƻKAFhKAFhóEDhƻMEMhMEMhƻNUNhNUNgËAMEKHgÇY%g",
    ":ƻPEhPEhƻTSADIhTSADIhQOFhRESHgËH%g:*V"]),
  (0x5ef, ["HEBREW YOD ĕhLIG>ƹYIDDĆ ÈVAVsVAV YODsÈYODhPǷ G_ESHmS!YIM"]),
  (0x600, [
    "Ə NƿÂbÂ,$AHb FOOTNOTEÏ_bÂ,AF!eMV>b NƿÏãb-%DÕCUB^ROOTfƀTH ROOTb RAYb-%DÕPþMIL<ÂfĢų úÂaAFGH$",
    "IÂaƏǋ=b D>EõĚ>ORcPOETÕŵSEÂbÊMISRAbÂ,.~ĪHOU A~YH^WASS.óbÊA~YH^ASS.ócRAHěUĪH A~YHEeDI .~HOU ",
    "$HUc*KHÜUSbßŬ*HdLIG>ƹĖF&ó&YEHdZA%cF>!cDAM=cKASRAbõMICǤb:=RKb +D ØTEXTÏcǈáƲPǷÏcQUESĳÏb:KASH",
    "MIRI YEHc!MZAcĖF&=Ŕãf!MZAãcWAW&!MZAãcĖF&!MZAĬcYEÞ!MZAãcĖFcBEHcTEH =RBU*fdHEHcJEEMc!HcÚHcD.",
    "cTH.cREHcZA%bËE+cHE+cADb:DADc*HcZAHbÇ%b:Š%cKEHEÞæǥhÿǅùcFARSI YEÞƖVlæǥlÿǥb T>WEELb:FEHcQAFc",
    "KAFcócMEEMcNOONcHEHcWAWcĖF =KSURAcYEHb F>H>$cDAMě$cKASR>$cF>!cDAM=cKASRAbĄŔb,UKUNb =ŔHãc!M",
    "ZAãgĬbƒSǚĖFb ƖDAM=bÏ NOÖGHUNNAb ZWARAKAYbûSMÜ VãcƖSMÜ VãcȎb ŰDAM=cF>!&æöScWAVY !MZAĬb-%DÕŦ",
    "fįfĤfĥfĴfŁfľfŉfŊfŋb ĢñÂcDECIȅõĚ>ORcúSõĚ>ORcťŽEDƙb:ö<ưBEHfQAFbËǱSǚĖFb:ĖF WAS~e&WAVY !MZAãoĬ",
    "cŬ!MZAh ĖFiWAWcƁ!MZAãcŬ!MZA YEHcTTEHgEHcBEEHcTEÞǀfÿǥ ƈWǩcPEHcTEHEHcBEHEHc!Þ!MZAãeæǅĀŒcNYEH",
    "cDYEHc!ÞÿǥcTëHfEHcDD.d.&ǀeƓf äß*HdAH.cŔH.cDULd.&ÿǥ ƈWǩfŭǥcRREHdEH ƴßVeÞǀeHƓf ƴßVĬfƓÐƲŒeÞæǥ",
    "cJEHcREÞŭǥbËE+ƓÐƲŒe&ÿǅùiÐÿǥcAƱæǅùeÿǥb:*ÞÿǥbÇ%&ÿǥb:ö<ưFEHcFEHșMOVEDĬfƓcVEHcFEÞÿǅùcPEHEHcQAF",
    "ſf&ÿǥcKEHEHbËWASH KAFb:KAF&ǀfſcNGcKAF&ÿǅùcGAFf&ǀcNGOEHcGAF&æǅùdUEHdAF&ÿǥcó ƴßVdſd&ÿǥfǅùcNO",
    "ƫȎeÖGHUNNAcRNOONcNOƫǀfÿǥcHEH DOAÔSHMEEcTëHſcHEÞYEHãeH GO.j&!MZAãcTEH =RBU* GO.cWAW&ǀcKIRGH",
    "IZ OEcOEcUcYUcKIRGHIZ YUcWAW&æǥcVEcFARSI YEHcYEÞŅeH ƴßVcWAWſcEcYEÞÿǅùeHĎREEiĂ!MZAãb ǠbÇEbß",
    "ŬLIG>ƹSAƱó&ĖF =KSURAiQAF&ó&ĖF =KSURAdèĠdó ĖFdJEEMdÿöSdSE+b +D ØAYAHbƙT ØRUB EL HIZBbßŬRĊDÀ",
    "Z_OdUPÄRECTÎƉZ_Odö<ưHEAD ØÚHdèÝcǹõ+cŬ=ŔcWAWcYEHcŬYEHdNOONb P~C^OF,AJDAHcEMPĦñR^ǹ,ńjŬSńcRĊD",
    "ÀŬSń&FILLÀñREbßėMEEMb:D.&ƖVcREÞƖVaEXĮDÀƏ-%DÕŦkįkĤkĥkĴkŁkľkŉkŊkŋaƏËHE+Ɠb:DADƓcŠ%ƓbÂ,%DHI AM",
    "ĢSäiPOSTPOSIĳ M+b:HEÞƖVaSYRIAC +D ØĚAGRčg,UPRAķAR ǠgƒķAR Ǡg,UPRAķAR CǤgƒķAR CǤg ƟCǤhCǤ,KEW",
    "ÀĒoàg,UPRAķAR CǤ,KEWÀĒgƒķAR CǤ,KEWÀàg CONTRAŜh!RK<ÓOBELUSmMETOBELUSmASÛISCUS"]),
  (0x70f, [
    "SYRIAC ABBREVIŗg:.čgËǱSǚ.čg:BETHhGAȅjMÆGARSHUNIhD.>Hhö<ưD.>H RĆhHEhWAWhZA%hHETHhTETHl GARS",
    "HUNIhYUDHl HEhKčh~=DHhMIMhNUNgËEMK>Hg:ƻSEMK>HhEhPEhŰPEgËADHEg:QčhRĆgËH%g:*WhĢSIÓBHETHlŠȅlD",
    "H.>Hg Pċ!ãkĬk ǾEDhZQAąãlĬl ǾEDhRBASAãmĬhǾÀZ~= Ǟ.nÎU~RhHBASAãmĬm-ESASA ǾEDhESASAãmĬhRWA!hFE",
    "M%ǴöhQUSHS!YAhRUKKAÚhæĀǥjǅùhÿǥiǅùhOBLIQU^ǒŒoķĬhMUSICgĎREKH"]),
  (0x74d, [
    "SYRIACËOGDIÓZ!%mKHčmFEaƏ:BEÞÿǅǞÜYĬeHƓÐÿǥeÞÿǅ÷ĻùkÐæǥfæǅùÐƲŒfƖSMÜ VĬeH ƴßVc!Þæǥeÿǅ÷ĻùcD.&æǅƮ",
    "ÜYĬ äß*HfƖSMÜ VĬcREH ĐbËE+&ŭǥbÇ%&æǥeÿǅ÷ĶŒeæǅƮÜYãb:FEÞæǅùfÿǅ÷ĻùcKEHEHſgÞÿǥiǅ÷ĻùcMEEMſețȎcNO",
    "ƫæǅùeÖƴß*HhVcó&ücREÞæǅƮÜYãf!MZAãbËE+&æǅƮÜYãb:!H ƴßƏ:*HĬlÐæöSbËE+ ƴßƏ:*HÐæöSb:REH ƴßƏ:*HÐæö",
    "Sc!H ƴßƏ:*HãcĖF&EXĮDÀƏ-%DÕĤãpĥãcFARSI YEÞEXĮDÀƏ-%DÕĤãvĥãvĴĬcWAW&EXĮDÀƏ-%DÕĤãqĥãcYEHĎREĂEXĮ",
    "DÀƏ-%DÕĤãtĥãc!ÞEXĮDÀƏ-%DÕĴĬbËE+&EXĮDÀƏ-%DÕĴãfƖVb:KAF&æǥaċ$A:!AbŝƤ!VIY$Ib$A:NOONUeRAAeBAAeL",
    "!VIY$IeKAAFUe.IFUeVAAVUeMEEMUeFAAFUeD!.UeċAe~AMUeGAAFUfNAVIY$IbŝƤE+Ub$A:DAVIY$IeZAVIY$Ie*V",
    "IY$IeYAAePAVIY$IeJAVIY$IeÔVIY$IeƅAeH!AeÚAeċ.UeZAAbŝƤHE+UdAADHUb$A:DAADHUeTOeZOdÇ%Ud:Š%UeQA",
    "AFUeWAAVUbŝABAFILIdABAAFILIcIBIFILIcEEBEEFILIcUBUFILIcOOBOOFILIcEBEFILIdYBEYFILIcOBOFILIdA",
    "BOAFILIb$A,UKUNd:NAA"]),
  (0x7c0, [
    "NKO ŦeįeĤeĥeĴeŁeľeŉeŊeŋdÇd:EEeIeEeUeOOfeDAGBAS%NAeNeBAePAe*eJAeÔeDAeRAfRAdËAd:GBAeFAeKAe~e",
    "NA WOLOSOe=eİeNAe!eWAeYAeİ WOLOSOeJONA JAjÔjRAdǋīÉ,ǣŬTÍiėTÍiRISÁTÍfÁƇDESC+DÁTÍhŬTÍhėTÍhRIS",
    "ÁTÍgNAS.IZŗgÈƲŒd ŬTÙAPOSTROPHEeėTÙAPOSTROPHEdŢOO D+N+eGBAKURUN+dǋ=d EXCóŗe~J$Y.$"]),
  (0x7fd, [
    "NKO D$*Y.$fOROMEÂe*M$ÂaSA=RIT$Ç~Fh:BITiGAM$iD.>iIYiBAAiZ+iITiTITiYUTiKAAFi~B>iMIMiNUNhËIĔ>",
    "h:%iFIiTSAADIYiQUFiRĆhËH$h:*AFhÏ %k-A~FjOCCLUSŖjDAGESHgÓMODIFI_:EPâHETÕYUTg$Ï EPâHETÕYUThû",
    "ƇEiEiƃƇAAiƇAAiAAiƃƇAiƇAiAgÓMODIFI_ËǣAg$ûSǣAiƇUiUgÓMODIFI_:Ig$ûƇIiIiOiSUKUNhÏ NEQUDAA"]),
  (0x830, [
    "SA=RITÓPǷ NEQUDAAkAFSAAQkÎEDkBAUk>=AUj,HIYYAA~AhABBREVIŗhPǷ MELODÕQITSAkZIQAAkQITSAkZAEFkT",
    "URUkARKA$Uj,Ø=SHFA>j $NAAU"]),
  (0x840, [
    "MäAIC:H.QAfÇBgGgDgHf:USH+NAfÇZf:ITg>TfÇKSAhf:.fÇMf:$fÇSf:%fÇPgSZgQgRgSHf:>gDUSH+NAgKADfÇ%d",
    "ÕAFFRICŗeVOC.IZŗeGEM%ŗ"]),
  (0x85e, ["MäAÕPǷ"]),
  (0x860, ["SYRIAC:=~YAó ĔnJAnİnƅnNNApNAnB!nRAnĪnLĪm,SA"]),
  (0x870, [
    "Ə:ĖF&>*CHÀF>!kń ÄF>!fÄMIDD<ȆfÃMIDD<Ȇf>*CHÀKASRAkBOTTOM ÄKASRAkRĊD ƲŒkÄRĊD ökÃRĊD ökRĊD Ȏeſ",
    "e&>*CHÀń ÄF>HȓƲŒfÄMIDD<ȆÐƲŒf>*CHÀBOTTOM ÄKASRȓƲŒkń ÄF>HȓÃǀfÄMIDD<ȆÐÃǀf>*CHÀBOTTOM ÄKASRȓÃǀ",
    "kÄ!MZAkÃ!MZAb T>WEEǍƃSTRUCK !MZAqWAWiæǅùb:THşYEHb BASEǒRĊD öcRAISÀRĊD öb:NOƫƖSMÜ Vc!ÞƖSMÜ ",
    "VĬc*HƓdÞÿǅùcKEHEÞæǅƮÜYĬb ĀŅ"]),
  (0x890, ["Ə PĊDÏãdIASTREÏã"]),
  (0x898, [
    "ƏßŬWORD .-JUZcėWORD Ć=AMiI=A~i*SHEELb =Ŕ WAAJIBb,ǱSǚĖF MOÚSSASb ĘD =Ŕcā=ŔĲ=Ŕb:BEH ƴßVĬeÞ!M",
    "ZAãcJEțæǥc*ÞæǥcFEHƓÐÿǥcQAFƓcó&ĘĎcMEțÿǥcYEÞæǅùÐ!MZAãjƲŒcREÞLOOPcWAWșƴ%cROǧYA YEHcėĖFcD.&ÿǅù",
    "bËAƱÿǅùb:GAF&%ŵTEDȆbËTRAĸWAWb:ZA%&ƖVãbÇ%&ÿǅùb:KAFƓcQAFƓÐNO ǥcBEH ƴßèŒcPEH ƴßèŒcTEH ƴßTEHãc",
    "REH ƴßNOÖŒcYEÞæǅù äßNOÖŒbÇFRICÓFEHhQAFhNOONb:PEH ƴßVcTEH ƴßVdTEH ƴßVdëH ƴßVcKEHEH ƴßVcŠ%&ÿ",
    "ǥbÇFRICÓQAF&ÿǥb:JEțÿǥgǅùcó ƴßƏ:*HãcGRAFbßFARSI YEHcŬFARSI YEHdYEHĎREĂæǅùdWORD,AHdZAHb Ś RĊ",
    "D ƲŒiȎb,UKUNĬb ŚȈĬd RĊD Ʋ%SIDEȈĬbßėWAWcŬWORD AR-RUBdSADdA%dQAFdNOƫKASRAcėNOƫKASRAcŬWORD >H",
    "-ċ~ċiAS-SAJDAi$-NISFh,AK*h QIFiWAQFAdFOOTNOTEÏ_cHIGHÂ,AF!b DISPUTÀ+D ØAYAHcŏDAM=ĬcƶY F>!fD",
    "AM=fKASRAfF>H>$fDAMě$fKASR>$cTÙÙƲŒeæǥeLOOPãeÙȎeæǅùeLOOPĬcġ F>H>$eDAMě$eKASR>$bßŬWAWb F>!&ǀ",
    "fſcKASRAƓcÃšãcÄšãcÃšĬcÄšĬcÈÄšãg&öcÄšã&öcDAM=&öbÏĽDEWAYS NOÖGHUNNAaDEV$AGARIÊƖCǦīDUjǔǦīDUjÊ",
    "ǌkȂjËǣAjÇkAiýIkIjUkUjǎjǵjCǦ EiIËǣEiýEiIÇIiýCǦ OiIËǣOiýOiIÇUiýKAjÚjGAjŠjĔjCAjÔjJAk!jİjƅjǜjŔ",
    "jǉjNNAj*jċjDAk!jNAkNNAjPAjąjBAk!j=jYAjRAkRAj~jĪjLĪjVAiIË!kSAkAiý!iIûOElOEjÊNUK*kAVAGRA!jûA",
    "AkIlIkUlUkǎlRkCǦ EkSǣEkEkAIkCǦ OkSǣOkOkAUjÊǽjûPRĆċěRA EkAWj OMjřRESSÊUD>*p$UD>*j ũ ACñkę A",
    "CñjûCǦ ƇEkUElUEiýQAjKH!jGH!jZAjDǉjR!jFAjYYAjǎRjǵLiIûǵlLj DäAkÈDäAkŦkįkĤkĥkĴkŁkľkŉkŊkŋkABBR",
    "EVIìÂjÊŬSPACÁöiýCǦ AjOEkOEiIÇWiýUEkUEj=RWARI ŔjZ!jéYAjGGAjJJAjGLOTTȍńjDŔjBBAaB+G.I $JIfǔǦī",
    "DUfÊǌgȂ"]),
  (0x985, ["B+G.IÇgAeýIgIfUgUfǎfǵ"]),
  (0x98f, ["B+G.ýEeIÇI"]),
  (0x993, ["B+G.ýOeIÇUeýKAfÚfGAfŠfĔfCAfÔfJAg!fİfƅfǜfŔfǉfNNAf*fċfDAg!fNA"]),
  (0x9aa, ["B+G.ýPAfąfBAg!f=fYAfRA"]),
  (0x9b2, ["B+G.ý~"]),
  (0x9b6, ["B+G.IË!gSAgAeý!"]),
  (0x9bc, ["B+G.IÊNUK*gAVAGRA!fûAAgIhIgUhUgǎhR"]),
  (0x9c7, ["B+G.IûEgAI"]),
  (0x9cb, ["B+G.IûOgAUfÊǽeýKHäA *"]),
  (0x9d7, ["B+G.I AU L+GTHÏ"]),
  (0x9dc, ["B+G.ýRRAg!"]),
  (0x9df, ["B+G.ýYYAfǎRfǵLeIûǵhL"]),
  (0x9e6, [
    "B+G.I ŦgįgĤgĥgĴgŁgľgŉgŊgŋeýRA&ðǡ.iēǡ.eI RUPEEÏlÂgCURR+CY NUM_>OR ÍwČwƋwƀwÙ<ưTHÓTH^D+OM%>OR",
    "oD+OM%>ORżƎgISS!RgGäAÏeýVEDÕǌeI ABBREVIìÂf,äHIÏ"]),
  (0xa01, ["GURMUKHIÊADAK īDIjīDIjȂ"]),
  (0xa05, ["GURMUKHIÇjAhýIjIiUjU"]),
  (0xa0f, ["GURMUKHýEEhIÇI"]),
  (0xa13, ["GURMUKHýOOhIÇUhýKAiÚiGAiŠiĔiCAiÔiJAj!iİiƅiǜiŔiǉiNNAi*iċiDAj!iNA"]),
  (0xa2a, ["GURMUKHýPAiąiBAj!i=iYAiRA"]),
  (0xa32, ["GURMUKHý~iĪ"]),
  (0xa35, ["GURMUKHýVAhIË!"]),
  (0xa38, ["GURMUKHIËAhý!"]),
  (0xa3c, ["GURMUKHIÊNUK*"]),
  (0xa3e, ["GURMUKHIûAAjIkIjUkU"]),
  (0xa47, ["GURMUKHIûEEjAI"]),
  (0xa4b, ["GURMUKHIûOOjAUiÊǽ"]),
  (0xa51, ["GURMUKHIÊUDA>"]),
  (0xa59, ["GURMUKHýKH!iGH!iZAiRRA"]),
  (0xa5e, ["GURMUKHýFA"]),
  (0xa66, ["GURMUKHI ŦjįjĤjĥjĴjŁjľjŉjŊjŋjTIPPIjAŔKjIRIjURAjEK ONKARiÊYAKASHi ABBREVIìÂ"]),
  (0xa81, ["GUJAR>IǔǦīDUhÊǌiȂ"]),
  (0xa85, ["GUJAR>IÇiAgýIiIhUiUhǎhǵgI VOWEL CǦ E"]),
  (0xa8f, ["GUJAR>ýEgIÇIh VOWEL CǦ O"]),
  (0xa93, ["GUJAR>ýOgIÇUgýKAhÚhGAhŠhĔhCAhÔhJAi!hİhƅhǜhŔhǉhNNAh*hċhDAi!hNA"]),
  (0xaaa, ["GUJAR>ýPAhąhBAi!h=hYAhRA"]),
  (0xab2, ["GUJAR>ý~hĪ"]),
  (0xab5, ["GUJAR>ýVAgIË!iSAiAgý!"]),
  (0xabc, ["GUJAR>IÊNUK*iAVAGRA!hûAAiIjIiUjUiǎjRiCǦ E"]),
  (0xac7, ["GUJAR>IûEiAIiCǦ O"]),
  (0xacb, ["GUJAR>IûOiAUhÊǽ"]),
  (0xad0, ["GUJAR>I OM"]),
  (0xae0, ["GUJAR>ýǎRhǵLgIûǵjL"]),
  (0xae6, ["GUJAR>I ŦiįiĤiĥiĴiŁiľiŉiŊiŋiABBREVIìÂiRUPEEÂ"]),
  (0xaf9, ["GUJAR>ýZ!gIÂ,UKUNiĄŔhÊ=ŔHiƋ-ƲNUK*ãiűNUK*ãiČ-űNUK*ã"]),
  (0xb01, ["ORIYAǔǦīDUfÊǌgȂ"]),
  (0xb05, ["ORIYAÇgAf:IhIgUhUgǎgǵ"]),
  (0xb0f, ["ORIYA:EfÇI"]),
  (0xb13, ["ORIYA:OfÇUf:KAgÚgGAgŠgĔgCAgÔgJAh!gİgƅgǜgŔgǉgNNAg*gċgDAh!gNA"]),
  (0xb2a, ["ORIYA:PAgągBAh!g=gYAgRA"]),
  (0xb32, ["ORIYA:~gĪ"]),
  (0xb35, ["ORIYA:VAfË!gSAgAf:!"]),
  (0xb3c, ["ORIYAÊNUK*gAVAGRA!fûAAgIhIgUhUgǎhR"]),
  (0xb47, ["ORIYAûEgAI"]),
  (0xb4b, ["ORIYAûOgAUfÊǽ"]),
  (0xb55, ["ORIYAÊƃķf AI L+GTHÏhU L+GTHÏ"]),
  (0xb5c, ["ORIYA:RRAh!"]),
  (0xb5f, ["ORIYA:YYAgǎRgǵLfûǵhL"]),
  (0xb66, ["ORIYA ŦgįgĤgĥgĴgŁgľgŉgŊgŋgISS!Rf:WAf FRAŜ ÙŕÛmȄlÿŕÛSlÍżƎTHlÙĈHlƋżƎTHS"]),
  (0xb82, ["*MILÊǌfȂ"]),
  (0xb85, ["*MILÇfAe:IgIfUgU"]),
  (0xb8e, ["*MIL:EgEeÇI"]),
  (0xb92, ["*MIL:OgOeÇUe:KA"]),
  (0xb99, ["*MIL:ĔfCA"]),
  (0xb9c, ["*MIL:JA"]),
  (0xb9e, ["*MIL:İfƅ"]),
  (0xba3, ["*MIL:NNAf*"]),
  (0xba8, ["*MIL:NAgNNAfPA"]),
  (0xbae, ["*MIL:=fYAfRAgRAf~fĪfLĪfVAeË!fSAfAe:!"]),
  (0xbbe, ["*MILûAAfIgIfUgU"]),
  (0xbc6, ["*MILûEgEfAI"]),
  (0xbca, ["*MILûOgOfAUeÊǽ"]),
  (0xbd0, ["*MIL OM"]),
  (0xbd7, ["*MIL AU L+GTHÏ"]),
  (0xbe6, ["*MIL ŦfįfĤfĥfĴfŁfľfŉfŊfŋfNƿųgĩÙçiúfDAYÂfMONTHÂfYEARÂfDEBITÂfCREDITÂfASãÂfRUPEEÂfNƿÂ"]),
  (0xc00, ["TELUGUÂǋīƵǦīDUãgǔǦīDUgÊǌhȂgÂǋīÁǌãgÇhAg:IiIhUiUhǎhǵ"]),
  (0xc0e, ["TELUGU:EiEgÇI"]),
  (0xc12, ["TELUGU:OiOgÇUg:KAhÚhGAhŠhĔhCAhÔhJAi!hİhƅhǜhŔhǉhNNAh*hċhDAi!hNA"]),
  (0xc2a, ["TELUGU:PAhąhBAi!h=hYAhRAiRAh~hĪhLĪhVAgË!hSAhAg:!"]),
  (0xc3c, ["TELUGUÊNUK*hAVAGRA!gûAAhIiIhUiUhǎiR"]),
  (0xc46, ["TELUGUûEiEhAI"]),
  (0xc4a, ["TELUGUûOiOhAUgÊǽ"]),
  (0xc55, ["TELUGU L+GTHÏhAI L+GTHÏ"]),
  (0xc58, ["TELUGU:TSAhDZAhRRRA"]),
  (0xc5d, ["TELUGU:NAKAARA POLLU"]),
  (0xc60, ["TELUGU:ǎRhǵLgûǵiL"]),
  (0xc66, ["TELUGU ŦhįhĤhĥhĴhŁhľhŉhŊhŋ"]),
  (0xc77, [
    "TELUGUÂĽǉMg FRAŜ Ŧ ĝ ODD POW_S Øƀmį ĝ ODD POW_S ØƀmĤ ĝ ODD POW_S Øƀmĥ ĝ ODD POW_S Øƀmį ĝ E",
    "V+ POW_S ØƀmĤ ĝ EV+ POW_S Øƀmĥ ĝ EV+ POW_S ØƀgÊTUUMUaK$NADAÂ,PACƵǦīDUgǔǦīDUgÊǌhȂgÂĽǉMgÇhAg",
    ":IiIhUiUhǎhǵ"]),
  (0xc8e, ["K$NADA:EiEgÇI"]),
  (0xc92, ["K$NADA:OiOgÇUg:KAhÚhGAhŠhĔhCAhÔhJAi!hİhƅhǜhŔhǉhNNAh*hċhDAi!hNA"]),
  (0xcaa, ["K$NADA:PAhąhBAi!h=hYAhRAiRAh~hĪ"]),
  (0xcb5, ["K$NADA:VAgË!hSAhAg:!"]),
  (0xcbc, ["K$NADAÊNUK*hAVAGRA!gûAAhIiIhUiUhǎiR"]),
  (0xcc6, ["K$NADAûEiEhAI"]),
  (0xcca, ["K$NADAûOiOhAUgÊǽ"]),
  (0xcd5, ["K$NADA L+GTHÏhAI L+GTHÏ"]),
  (0xcdd, ["K$NADA:NAKAARA POLLUhFA"]),
  (0xce0, ["K$NADA:ǎRhǵLgûǵiL"]),
  (0xce6, ["K$NADA ŦhįhĤhĥhĴhŁhľhŉhŊhŋ"]),
  (0xcf1, ["K$NADAÊJIHVAMULIYAhUPADHM$IYA"]),
  (0xd00, ["=~YAóÂǋīÁǌãfǔǦīDUfÊǌgȂf:VEDÕǌfÇgAf:IhIgUhUgǎgǵ"]),
  (0xd0e, ["=~YAó:EhEfÇI"]),
  (0xd12, [
    "=~YAó:OhOfÇUf:KAgÚgGAgŠgĔgCAgÔgJAh!gİgƅgǜgŔgǉgNNAg*gċgDAh!gNAhNNAgPAgągBAh!g=gYAgRAhRAg~gĪ",
    "gLĪgVAfË!gSAgAf:!gTƅfÊĀü ǽfǔIRCƉǽfÊAVAGRA!fûAAgIhIgUhUgǎhR"]),
  (0xd46, ["=~YAóûEhEgAI"]),
  (0xd4a, ["=~YAóûOhOgAUfÊǽf:ƲREPHfÊĚA"]),
  (0xd54, [
    "=~YAó:CHILLU MnYnLLLf AU L+GTHÏgFRAŜ ÙÍ-ç-ä-SIXTIETHmĝTIETHlÿĈIETHSlÙTWâIETHnâHlÿTWâIETHSl",
    "ÙFIFTHfÇRÔÕIIf:ǎRgǵLfûǵhL"]),
  (0xd66, [
    "=~YAó ŦgįgĤgĥgĴgŁgľgŉgŊgŋgNƿųhĩÙçjúgFRAŜ ÙŕÛmȄlÿŕÛSlÍżƎTHlÙĈHlƋżƎTHSgD>EÏf:CHILLU NNonRRnL",
    "oLnK"]),
  (0xd81, ["S%!~ǔǦīDUeÊǌYAfȂYA"]),
  (0xd85, ["S%!~ÇƕfAƕfEƕgEƕe:IƕgIƕfUƕgUƕfIRUƕiUƕgLUƕiUƕfEƕgEƕeÇIƕe:OƕgOƕeÇUƕ"]),
  (0xd9a, [
    "S%!~:.PAPRAŝKAƕf=!APRAŝKAƕf.PAPRAŝGAƕf=!APRAŝGAƕfK$*JA NAASIKYAYAeËAİKA GAƕe:.PAPRAŝCAƕf=!",
    "APRAŝCAƕf.PAPRAŝJAƕf=!APRAŝJAƕf*.UJA NAASIKYAYAk,$YOOGA NAAKSIKYAYAeËAİKA JAƕe:.PAPRAŝƅƕf=",
    "!APRAŝƅƕf.PAPRAŝŔƕf=!APRAŝŔƕfMUURD!JA NAƕeËAİKA Ŕƕe:.PAPRAŝ*ƕf=!APRAŝ*ƕf.PAPRAŝDAƕf=!APRAŝ",
    "DAƕfD$*JA NAƕ"]),
  (0xdb3, ["S%!~ËAİKA DAƕe:.PAPRAŝPAƕf=!APRAŝPAƕf.PAPRAŝBAƕf=!APRAŝBAƕgƕeÇMBA BAƕe:YAƕfRAƕ"]),
  (0xdbd, ["S%!~:D$*JA ~ƕ"]),
  (0xdc0, ["S%!~:VAƕf*.UJA,AƕfMUURD!JA,AƕfD$*JA,Aƕf!ƕfMUURD!JA ~ƕfFAƕ"]),
  (0xdca, ["S%!~Ê.-~KUNA"]),
  (0xdcf, ["S%!~ûAE~-PIĪfKETTI AEDA-PIĪfDIGA AEDA-PIĪfKETTI IS-PIĪfDIGA IS-PIĪfKETTI PAA-PIĪ"]),
  (0xdd6, ["S%!~ûDIGA PAA-PIĪ"]),
  (0xdd8, [
    "S%!~ûGAEƅ-PIĪfKOMBUVAfDIGA KOMBUVAfKOMBU DEKAkVA !A AE~-PIĪqDIGA AE~-PIĪqGAY$UKIƅfGAY$UKIƅ"]),
  (0xde6, ["S%!~ LITH ŦkįkĤkĥkĴkŁkľkŉkŊkŋ"]),
  (0xdf2, ["S%!~ûDIGA GAEƅ-PIĪmY$UKIƅe PǷ KUNDD.IYA"]),
  (0xe01, [
    "ċI ÔRACơKO KAIjHO ÚImKHU>oWAIoONmRAKHÎiNGO NGUiCHO CH$nǧnHÎhÛ,O,OhơCHO CHOEiYO YÉiDO ÔDAiĨ",
    "PA*KiTHO TH$mNÎMONTHOmPHUċOiNO N+iDO DEKiĨ*OiTHO THŃmċH$mTHONGiNO NUiBO BAI=IiPO P~jHO PHŃ",
    "iFO FAiPHO PH$iFO F$iPHO,AMąOiMO =iYO YAKiRO RUAjUiLO LÉjUiWO WA+hÛ,O,A~k RUSIk,UAhơHO HIP",
    "iLO CHU~iO ÎiHO NOKHUKiPAIY$NOIhÛ,ARA Ahơ=I H$-AK>hÛ,ARA AAoMnIoInUEpEooUhơPH%THU"]),
  (0xe3f, [
    "ċI CURR+CYŢBAHTdÔRACÛ,ARA EnAEnOnAI =IMU$s=~Ihơ~KKHÎYAOi=IYAMOKk*IKHUk EKlTHOmRIlÔƅWAiTH$ċ",
    "KH>iNIÚHITiYA=KK$iFONGM$dŦdįdĤdĥdĴdŁdľdŉdŊdŋdÔRACơÎKH$KHUiKHOMUT"]),
  (0xe81, ["~O:KOeHO,Ń"]),
  (0xe84, ["~O:KHO *M"]),
  (0xe86, ["~O:P.I ŠdNGOdCOdP.I ÔcËO *M"]),
  (0xe8c, [
    "~O:P.I J!dNYOdP.I İhƅhǜhŔhǉhNNAdDOdTOeHO,Ńg *MdP.I D!dNOdBOdPOeHO,ŃdFO *MdPHO *MdFO,ŃdP.I ",
    "B!dMOdYOdLO LÉ"]),
  (0xea5, ["~O:LO LOOT"]),
  (0xea7, [
    "~O:WOcË$SKRITĄj,SAdO,Ńc:HO,ŃdP.I ĪdOdHO *Mc ELLIPSIScûAd=I K$dAAeMdIeIdYeYdUeUcÊP.I ǽcû=I ",
    "KONcõMIVOWELÊLOlNYO"]),
  (0xec0, ["~OûEeIdOdAYeI"]),
  (0xec6, ["~O KO ~"]),
  (0xec8, ["~O TÙ=I EKiTHOjIiCA*WAdC$CELLŗdNIGGAHI*"]),
  (0xed0, ["~O ŦdįdĤdĥdĴdŁdľdŉdŊdŋ"]),
  (0xedc, ["~O HO NOgMOc:KHMU GOiNYO"]),
  (0xf00, [
    "TIBET$ƝOMgÏ GơYIG MGO TRUNC>ÀAs-UM RNAM BCAD =wGơTSHEG =i%ITIÆYIG MGO MDUN =iCLOSÁYIG MGO,",
    "GAB =jARET YIG MGO PHURĄD =iYIG MGO TSHEGĄD =h,BRULĄDh BSKUR YIG MGOjKA-,HOG YIG MGOi%ÛSYĪ",
    "BÕTSHEGiDELIMIơTSHEG BS*RhĄDh NYISĄDiTSHEGĄDiNYIS TSHEGĄDiRşCH+,PŃSĄDjGYA GRAMĄDiCARET -DZ",
    "UD R*GS M^ƇC$iGơTSHEGfÓLOGOTYPEǔ!D R*GSoÊL!G R*GSgASTROLOGIC.Â,GRA GCÓ-ÔR R*GSrÊ-KHYUD PAr",
    "Â,DONG TSHUGSf$ÊRDEL DKAR GCIGsNYISsSUMmNAG GCIGrNYISmDKAR RDEL NAGfÓŦgįgĤgĥgĴgŁgľgŉgŊgŋgD",
    "IGIT āÍnČnƋnƀnǑmȄżnğmāĈnŶnZ_Of$Ï BSDUS R*GSiĔS BZŃ NYI Z~iCARET -DZUD R*GS BZHI MIG C$iĔS ",
    "BZŃ,GOR R*GSiCH^MGOiTSA -PHRUiGUG R*GS GYONtASiÎ KHÎ GYONqASgÊYAR TSHESh=R TSHESg:KAhÚhGAh",
    "ŠhĔhCAhÔhJA"]),
  (0xf49, [
    "TIBET$:İhƅhǜhŔhǉhNNAh*hċhDAi!hNAhPAhąhBAi!h=hTSAj!hDZAj!hWAhZ!iAh-AhYAhRAh~gË!hSAhAg:!gÇg:",
    "KSSAhFIXED-ƚ RAhKKAhRRA"]),
  (0xf71, [
    "TIBET$ûAAhIiIhUiUhǎiRhǵiLhEiEhOiOgÊRJEƬU Ĕ ROiNAM BCADgûŰIjIgÊNYI Z~ NAA DAgÂ,NA LD$gÏ H.$",
    "*iP.U*gÊLCI R*GShYÎ R*GShLC^TSA C$hMCHU C$hGRU CÓRGYÉSlMÀRGYÉShƖMCHU C$gƒJO%EDÊLC^TSA C$nM",
    "CHU C$nƖMCHU C$m:KAnÚnGAnŠnĔnCAnÔnJA"]),
  (0xf99, [
    "TIBET$ƒJO%ED:İnƅnǜnŔnǉnNNAn*nċnDAo!nNAnPAnąnBAo!n=nTSAp!nDZAp!nWAnZ!oAn-AnYAnRAn~kÀƤ!mSAmA",
    "kED:!mÇm:KSSAnFIXED-ƚ WAvYAvRA"]),
  (0xfbe, [
    "TIBETÓKU RU Ún BZHI MIG C$gC$TIĪĳÊéBE>nŮBE>mǔÎ TE-UmÂ,BUB -CH.f$ŢDRIL BUhRDO RJEhPAD= GD$h",
    "RDO RJ^RGYA GRAMhPHUR PAhNOR BUn NYIS -KHYILoGSUM -KHYILoBZHI -KHYIL"]),
  (0xfce, [
    "TIBET$ÊRDEL NAG RDEL DKARqGSUMgÏ BSKA-,HOG GI MGO RGY$iMİM YIG GI MGO RGY$iNYIS TSHEGi%ITI",
    "ÆBRDA RNYÁYIG MGO MDUN =iCLOSÁBRDA RNYÁYIG MGO,GAB =aǶFACÉ,VASTIÂaǢFACÉ,VASTIÂaǶFACÉ,VASTI",
    "Â&öSaǢFACÉ,VASTIÂ&öSaTIBET$Ï <ADÁMCHÓR*GSiTRAILÁMCHÓR*GS"]),
  (0x1000, [
    "MY$=R:KAgÚgGAgŠgĔgCAgÔgJAh!gİgNİgƅgǜgŔgǉgNNAg*gċgDAh!gNAgPAgągBAh!g=gYAgRAg~gWAfËAf:!gĪfÇf",
    "ËHÓAf:IhIgUhUgEgMÖEgOfÇUfûTÜ AAgAAgIhIgUhUgEgAIgMÖIIiOg^ŒfÊǌgȎgȂgǽgAS>f CONSON$TÊMEDIÆYAuR",
    "AuWAu!f:GRE>,Af ŦgįgĤgĥgĴgŁgľgŉgŊgŋfÊƦ<õŜfÂõŜfŢLOC>IVEfÒǋP<TEDfŢAĝEM+ĳEDgG+ITIVEfË!gSAf:ǎh",
    "RgǵhLfûǎhRgǵhLf:MÖĔiJ!iBBAkEf CONSON$TÊMÖMEDIÆNAw=w~fËGAW KAR+ĄfûSGAW KAR+ EUf TÍÏ,GAW KAR",
    "+ H>HItK^PHOf:WESÛN PWO KAR+ ċvPWAfûWESÛN PWO KAR+ EUvUEfÊWESÛN PWO KAR+ TÍ-1y2y3y4y5f:EAS",
    "ÛN PWO KAR+ NNAvYWAvGHWAfûGEBA KAR+ IgKAYAH OEmUmEEfËHÓKAiÚiGAiCAiZAiİiDAiNAiąiFAiBAiċi!f ",
    "CONSON$TÂ,HÓMEDIÆWAfûSHÓAAjEj^ŒjƻYfÂ,HÓTÍ-2m3m5m6jCĊCIL TÍ-2s3pEMPH>ÕTÍf:RU=I PA~Ń FAfÊRU=",
    "I PA~Ń TÍ-5f,HÓŦiįiĤiĥiĴiŁiľiŉiŊiŋfÊÚMTI TÍ-1o3fûAITÖAlIfÒ,HÓÍjEXC~=ĳaGEORGI$|$iB$iG$iDONi",
    "+iV%iZ+iT$i%iK$i~SiM$iNARiONiĚiZ!RiRAEhŷ$h|*RiUNiąRiÚRiGH$iQARhŷH%h|CH%j$iJILiCILiÔRiX$iJH",
    "$i!EiHEjIEiWEi!RiHOE"]),
  (0x10c7, ["GEORGI$|YN"]),
  (0x10cd, ["GEORGI$ƌ+"]),
  (0x10d0, [
    "GEORGI$:$iB$iG$iDONi+iV%iZ+iT$i%iK$i~SiM$iNARiONiĚiZ!RiRAEhË$h:*RiUNiąRiÚRiGH$iQARhËH%h:CH",
    "%j$iJILiCILiÔRiX$iJH$i!EiHEjIEiWEi!RiHOEiFIiYNiELIFIiŏG$hÇ%gÓĚAGRčõĚ>ORaMODIFI_:GEORGIÓNAR",
    "aGEORGI$Ç+h:HŞÂi~BI.ÂaHÎUL CHOSEONG Ǖn,SÎǕn NÑNoTIKEUTn,SÎTIKEUTn RÑLoMÑMoƥn,SÎƥn Ũn,SÎŨn ",
    "IEŃoCÑCn,SÎCÑCn CHÑCHoKHÑKHoTHÑTHoPHÑPHoǸoNÑN-Ǖn,SÎNÑNn NÑN-TIKEUTsƥoTIKEUT-ǕoRÑL-NÑNn,SÎR",
    "ÑLn RÑL-ǸoKAPYEĊRÑLoMÑM-ƥoKAPYEĊMÑMoƥ-ǕqNÑNqTIKEUTqŨr-ǕsTIKEUTsƥqSSÎŨqŨ-CÑCqCÑCrHÑCHqTHÑTH",
    "qPHÑPHoKAPYEĊƥuSSÎƥoŨ-ǕqNÑNqTIKEUTqRÑLqMÑMqƥr-ǕqSSÎŨqIEŃqCÑCrHÑCHqKHÑKHqTHÑTHqPHÑPHqǸoCHIT",
    "UEUMŨwSSÎŨpEONGCHÑMŨxSSÎŨoP$ŨoIEŃ-ǕsTIKEUTsMÑMsƥsŨsP$Ũn,SÎIEŃn IEŃ-CÑCtHÑCHsTHÑTHsPHÑPHoYE",
    "SIEŃoCÑC-IEŃpHITUEUMCÑCwSSÎCÑCpEONGCHÑMCÑCxSSÎCÑCpHÑCH-KHÑKHuǸqITUEUMCHÑCHpEONGCHÑMCHÑCHoP",
    "HÑPH-ƥoKAPYEĊPHÑPHn,SÎǸn YEOR%ǸoǕ-TIKEUToNÑN-ŨsCÑCsǸoTIKEUT-RÑLoFILL_fJŃSEONG FILL_nAoEnYA",
    "pEnEOonYEOpnOnWApEnOEnYOnUnWEOpoInYUnEUnYInInA-OpUnYA-OqYOnEO-OqUqEUnYEO-OrUnO-EOqpYEpOpUn",
    "YO-YAsErEOqOqInU-AqEpEO-EUpYEpUnYU-AqEOrqYEOsqUqInEU-UqEUnYI-UnI-ApYApOpUpEUpARAEAnARAEAs-",
    "EOtUtIm,SAĔRAEAm A-EUnYA-UoEO-YAnO-YArEgONGSEONG Ǖo,SÎǕo Ǖ-ŨpNÑNs-CÑCtǸpTIKEUTpRÑLs-ǕtMÑMt",
    "ƥtŨtTHÑTHtPHÑPHtǸpMÑMpƥq-ŨpŨo,SÎŨo IEŃpCÑCqHÑCHpKHÑKHpTHÑTHpPHÑPHpǸpǕ-RÑLrŨ-ǕpNÑN-ǕtTIKEUT",
    "tŨtP$ŨtTHÑTHpTIKEUT-ǕwRÑLpRÑL-Ǖ-ŨtNÑNtTIKEUTz-Ǹo,SÎRÑLo RÑL-MÑM-ǕxŨtƥ-ŨvǸtKAPYEĊƥtSSÎŨtP$Ũ",
    "tKHÑKHtYEOR%ǸpMÑM-ǕtRÑLtƥtŨtSSÎŨtP$ŨtCHÑCHtǸpKAPYEĊMÑMpƥ-RÑLrPHÑPHrǸpKAPYEĊƥpŨ-ǕrTIKEUTrRÑ",
    "LrƥpP$ŨpIEŃ-ǕtSSÎǕo,SÎIEŃo IEŃ-KHÑKHpYESIEŃv-ŨwP$ŨpPHÑPH-ƥpKAPYEĊPHÑPHpǸ-NÑNrRÑLrMÑMrƥpYEO",
    "R%ǸpǕ-NÑNrƥrCHÑCHrKHÑKHrǸo,SÎNÑNaETHIOPICƝ!jHUkIj!AjHEElkOlAj~jLUkIj~Aj<EkjLOkWAjH!kHUlIk!",
    "AkHEEmlOlWAj=jMUkIj=AjMEElkOkWAjSZAlUlIlAAlEEmlOlWAjRAkUkIkAAkEElkOkWAjSAkUkIkAAkEElkOkWAk",
    "!kHUlIk!AiȘ<ŪEliƝSHOlWAjQAkUkIkAAkEElkOlAkWA"]),
  (0x124a, ["ETHIOPICƝQWIlAAlEEm"]),
  (0x1250, ["ETHIOPICƝQ!kHUlIk!AkHEEmlO"]),
  (0x1258, ["ETHIOPICƝQHWA"]),
  (0x125a, ["ETHIOPICƝQHWImAAmEEn"]),
  (0x1260, [
    "ETHIOPICƝBAkUkIkAAkEElkOkWAjVAkUkIkAAkEElkOkWAj*jTUkIj*AjTEElkOkWAjCAkUkIkAAkEElkOkWAjXAkU",
    "kIkAAkEElkOlAkWA"]),
  (0x128a, ["ETHIOPICƝXWIlAAlEEm"]),
  (0x1290, [
    "ETHIOPICƝNAkUkIkAAkEElkOkWAjİjNYUlIjİAjNYEEmlOlWAjGLOTTÆApUpIpAApEEqpOpWAjKAkUkIkAAkEElkOl",
    "AkWA"]),
  (0x12b2, ["ETHIOPICƝKWIlAAlEEm"]),
  (0x12b8, ["ETHIOPICƝKXAlUlIlAAlEEmlO"]),
  (0x12c0, ["ETHIOPICƝKXWA"]),
  (0x12c2, ["ETHIOPICƝKXWImAAmEEn"]),
  (0x12c8, ["ETHIOPICƝWAkUkIkAAkEElkOlAjąRYNGEÆAqUqIqAAqEErqO"]),
  (0x12d8, [
    "ETHIOPICƝZAkUkIkAAkEElkOkWAk!kHUlIk!AkHEEmlOlWAjYAkUkIkAAkEElkOlAjDAkUkIkAAkEElkOkWAjŔjDDU",
    "lIjŔAjDDEEmlOlWAjJAkUkIkAAkEElkOkWAjGAkUkIkAAkEElkOlAkWA"]),
  (0x1312, ["ETHIOPICƝGWIlAAlEEm"]),
  (0x1318, [
    "ETHIOPICƝGGAlUlIlAAlEEmlOlWAAjċjTHUlIjċAjTHEEmlOlWAjÔjCHUlIjÔAjëEkjCHOlWAjąjPHUlIjąAjPHEEm",
    "lOlWAjTSAlUlIlAAlEEmlOlWAkZAlUlIlAAlEEmlOmAjFAkUkIkAAkEElkOkWAjPAkUkIkAAkEElkOkWAjRYAjMYAj",
    "FYA"]),
  (0x135d, [
    "ETHIOPICǋīÁGEM%ìÐVOWEL L+GTHÏlVOWEL L+GTHÏlGEM%ŗiõŜÏgÕWORDSPACEhǠgICǋ=iõMICǤgÕCǤhPREò CǤhQ",
    "UESĳÏhĚAGRčõĚ>ORhįhĤhĥhĴhŁhľhŉhŊhŋhNƿųiĩǝjŹTYjĝTYjFIFTYiǿTYiƿğTYiĩĈYjŶTYjçiƿų ú"]),
  (0x1380, [
    "ETHIOPICƝSEB>BEIT MWAjMWIlEEmjSEB>BEIT BWAjBWIlEEmjSEB>BEIT FWAjFWIlEEmjSEB>BEIT PWAjPWIlE",
    "EmgÕTON.Ï YIZETnD_ETnRIKRIKm,ǣRIKRIKm DIF>nK+>nCHIRETnHIDETnD_ET-HIDETnKURT"]),
  (0x13a0, [
    "CH_OKEEÇh:EiIiOiUiViGAiKAiGEjIjOjUjVi!iHEjIjOjUjVi~i<iLIjOjUjVi=iMEjIjOjUiNAiHNAiNAHjEjIjO",
    "jUjViQUAkEkIkOkUkVg^ƤAiiEiIiOiUiVgE:DAi*iDEiTEiDIiTIiDOjUjVj~iT~j<jLIkOkUkVjSAkEkIkOkUkViW",
    "AjEjIjOjUjViYAjEjIjOjUjViMV"]),
  (0x13f8, ["CH_OKEE;YEjIjOjUjViMV"]),
  (0x1400, [
    "C$ADI$ȘICS HYPH+lElAAIlImIlOmOlY-CRE^OOlCARRIþEErIlAmAlWElļWElWIlļWIlWIIlļWIIlWOlļWOlWOOlļ",
    "WOOlNASKAPI WOOlWAlļWAlWAAlļWAAlNASKAPI WAAlAIlY-CRE^WlGLOTTȍńlƻęmũmBOTTOM āǀmń āǀmÄāǀmǀmÈ",
    "ęmĘ,ǣƮƛSmðömSǣǞƛmǳmćTŀl+l%lONl$lPEmAAImInImOnOlY-CRE^POOlCARRIþHEEsIlPAnAmWElļPWElPWIlļPWI",
    "lPWIIlļPWIIlPWOlļPWOlPWOOlļPWOOlPWAlļPWAlPWAAlļPWAAlY-CRE^PWAAlPlļPlCARRIþHlTEl*AIlTInImOn",
    "OlY-CRE^TOOlCARRIþDEEsIl*mAlTWElļTWElTWIlļTWIlTWIIlļTWIIlČlļČlČOlļČOlTWAlļTWAlTWAAlļTWAAlN",
    "ASKAPI TWAAlTmTEnInOlƅlKEmAAImInImOnOlY-CRE^KOOlKAnAmWElļKWElKWIlļKWIlKWIIlļKWIIlKWOlļKWOl",
    "KWOOlļKWOOlKWAlļKWAlKWAAlļKWAAlNASKAPI KWAAlKmWjƬOUTH-S~VEY KEHwIHwOHwAHjS CEmAAImInImOnOl",
    "Y-CRE^COOlCAnAmWElļCWElCWIlļCWIlCWIIlļCWIIlCWOlļCWOlCWOOlļCWOOlCWAlļCWAlCWAAlļCWAAlNASKAPI",
    " CWAAlCjƬAYISI THjS MEl=AIlMInImOnOlY-CRE^MOOl=mAlMWElļMWElMWIlļMWIlMWIIlļMWIIlMWOlļMWOlMW",
    "OOlļMWOOlMWAlļMWAlMWAAlļMWAAlNASKAPI MWAAlMlļMlMHl>!PASCÓMjƬAYISI MjS NEmAAImInImOnOlY-CRE",
    "^NOOlNAnAmWElļNWElNWAlļNWAlNWAAlļNWAAlNASKAPI NWAAmlCARRIþNGlNHl<l~AIlLInImOnOlY-CRE^LOOl~",
    "mAlLWElļLWElLWIlļLWIlLWIIlļLWIIlLWOlļLWOlLWOOlļLWOOlLWAlļLWAlLWAAlļLWAAlLlļLlMEDIÆLkõjƬAAI",
    "jSĽlIjƬOlOjS Y-CREƭOOjƬAlAkWEjS ļSWEjƬWIjS ļSWIjƬWIIjS ļSWIIjƬWOjS ļSWOjƬWOOjS ļSWOOjƬWAjS",
    " ļSWAjƬWAAjS ļSWAAlNASKAPI,WAAjƬjS >!PASC$,jƬWjSȏFOOT,k MOOSE-CREƭKlNASKAPI,KWt-WtPWAsřWAs",
    ",KWAtCWAkŪjƬHImIlOmOjSĄlAjƬHWEjS ļSHWEjƬHWIjS ļSHWIjƬHWIIjS ļSHWIIjƬHWOjS ļSHWOjƬHWOOjS ļS",
    "HWOOjƬHWAjS ļSHWAjƬHWAAjS ļSHWAAjƬHjS YEmAAImInImOnOm-CRE^YOOmAnAmWElļYWElYWIlļYWIlYWIIlļY",
    "WIIlYWOlļYWOlYWOOlļYWOOlYWAlļYWAlYWAAlļYWAAlNASKAPI YWAAlYlBIB<-CRE^YlļYjƬAYISI YIjS REm-C",
    "RE^RElļ<lRAAImInImOnOlļLOlRAnAlļ~lRWAAlļRWAAlRlļRlMEDIÆRlFEmAAImInImOnOmAnAmWAAlļFWAAlFlTH",
    "ElN-CRE^THElTHIlN-CRE^THIlTHIIlN-CRE^THIIlTHOoOlċmAlTHWAAlļTHWAAlTHmTHEoIoOlǜlTTHmYEnInOnA",
    "lNUNAVIK HEuIvIuOvOt!uAtHqUT HlHKlQAAImInImOnOmAnAmlTLHEoIoOn!lļREnInOnAlĔAIlNGIoInOoOlĔmA",
    "lNGmNGjƬAYISIŪp,HIrOpĄjS WOODS-CRE^THExIxOvċvTHlLHIoInOoOm!nAmHlTH-CRE^THEuIvIuOvOsċtAsTHl",
    "AIVILIK BkȏFOOT EqIqOqAqWErIrOrAqNErIrOrAqKErIrOrAjƬAYISI HErIrOq!jS CARRIþGHUtOtEuEtIrŠrR",
    "UsOsEtEsIsArWUsOsEtEsIsArHWUtOtEuEtItArTHUtOtEuEtIrċrTTUtOtEuEtIrƅrPUsOsEtEsIsAsrGUsOsEtEs",
    "IsArKHUtOtEuEtIrÚrKKUtOtEuEtItAtrNUsOsEtEsIsArMUsOsEtEsIr=rYUsOsEtEsIsArJUjƬAYISI JUjS CAR",
    "RIþJOsEtEsIjƬAYISI JIjS CARRIþJAsJUtOtEuEtItArLUsOr<sErLIr~rDLUtOs<tEsLIs~rLHUtOtEuEtIs!rT",
    "LHUuOuEvEuIt!tUtOs<tEsLIs~rZUsOsEtEsIsAsr%ITIÆZrDZUtOtEuEtItAq_,UsOrõsErĽr,AsHUtOrŪsEr,HIr",
    "Ąr,HqþTSUtOtEuEtItArCHUtOrësErCHIrÔrTTSUuOuEvEuIuAmHIÂlǠlQAIlĔIlNNGIpIoOpOmĔnAlWOODS-CRE^T",
    "HWEEyIzIyOzOyAzAvƻTHkȏFOOT WaOŠM,PACEÏd:BEITHeLUISeFEARNdËAILd:NŖeU>HeDAIReT%NEeCOLLfEIRTe",
    "MU%eGORTeNGEAD.dËTRAIFd:RUISdÇILMd:ONNeUReEAD!DHeIOD!DHeEAB!DHeOReUIL<$NeIF%eEAMH$CHOLLePE",
    "ITHd FE>H_ÏeŰFE>H_Ï"]),
  (0x16a0, [
    "RUNIC:FEHU FEOH F^FgVgURUZ UR UgYRhgWgTHURISAZ THURS TĞNgETHg$SUZ AgOS OfÇC AgESCf:ȇ-BR$CH",
    "-OưOdÕƤĞT-TWIG-OưOdIC:OhEhNgRAIDO RAD REID RgKAUNAgC+gKAUN KgGg+GgGEBO GYFU GhARgWUNJO WYN",
    "N Wg!G~Z HhEGL Hgȇ-BR$CH-!GÜ HdÕƤĞT-TWIG-!GÜ HdIC:NAUDIZ NYD NAUD NdÕƤĞT-TWIG-NAUD NdIC:ǾE",
    "D-NgISAZ IS IưIgEgJ_ÓJgG_gȇ-BR$CH-AR AEdÕƤĞT-TWIG-AR AdIC:IWAZ EOHgĢTHO PEORTH Pg.GIZ EOLH",
    "XdÕƤOWILO,fIGEL ȇ-BR$CH-SOL,fĞT-TWIG-SOL,dIC:CgZgTIWAZ TIR TYR TdÕƤĞT-TWIG-TYR TdIC:DgB_K$",
    "ÓBEORC BJARKÓBdÕƤĞT-TWIG-BJARKÓBdIC:ǾED-Pgġ-PgEHWAZ EH EgM$NAZ MÓMgȇ-BR$CH-=DR MdÕƤĞT-TWIG",
    "-=DR MdIC:~UKAZ ~GU LOGR LgǾED-LgÉWAZhgDAGAZ DAEG DgOTH.ÓETHEL OgEARgIORgCWEORTHh.ChE.CdÕƤ",
    "T$dIC:ȇ-BR$CH-YRdÕƤĞT-TWIG-YRdIC:ICELäIC-YRgQgXfžáPǷdÕMULTIPáPǷeǊ PǷeAR~UGÒeTVI=DURÒeBELGT",
    "ĞÒdIC:KdÕƤHdIC:OOgFR$KS CASKET OStIStEHtACuESC"]),
  (0x1700, ["*G.OGÇf:IgUgKAgGAgĔg*gDAgNAgPAgBAg=gYAgRAg~gWAfËAf:!fûIgUfÊǽgPAMUDPOD"]),
  (0x171f, [
    "*G.OGÇRÔÕRAaH$UNOOÇg:IhUhKAhGAhĔh*hDAhNAhPAhBAh=hYAhRAh~hWAgËAg:!gûIhUgÊPAMUDPODaPHILIPP%E",
    "žáPǷhǴÈPǷ"]),
  (0x1740, ["BUHIDÇf:IgUgKAgGAgĔg*gDAgNAgPAgBAg=gYAgRAg~gWAfËAf:!fûIgU"]),
  (0x1760, ["*GB$WAÇg:IhUhKAhGAhĔh*hDAhNAhPAhBAh=hYA"]),
  (0x176e, ["*GB$WA:~hWAgËA"]),
  (0x1772, ["*GB$WAûIhU"]),
  (0x1780, [
    "KHM_:KAfÚfKOgHOfNGOfCAfÔfCOgHOfNYOfDAfǜfDOfTTHOfNNOf*fċfTOgHOfNOfBAfąfPOgHOfMOfYOfROfLOfVO",
    "eË!fSOfAe:!f~fQAdþ%DEP+DǲVOWEL QAQtAsItIsUtKtUuVrRYtYrLYtYrQEsAIsOO TYP^ÍzČsAUeVOWEL %H_ǲA",
    "QpAd_ûAAfIgIfYgYfUgUgAfOEfYAfIEfEfAEgIfOOfAUeÊNIKAHITfREAHMUKfYUUKĖAP%TUfMUUSIK>O$fTRIISAP",
    "fB$TOCfROB>fTOäAKHI>fKAKAB>fAHSDAeÂ,AMYOK,$İeÊVIRIAMeǔO+GeÊB>!=S>fKH$eÂĎIYOOS$eǔAMNUC PII ",
    "KUUHeÊ<K TOOfBEYY.fPHNAEK MU$fKOOMUUTdþCURR+CYŢRIELd_ÊAVAKRA!SAİgǜC$"]),
  (0x17e0, ["KHMþŦeįeĤeĥeĴeŁeľeŉeŊeŋ"]),
  (0x17f0, ["KHM_Ţ<K >*K,ONl MUOYmPIImBEInUONmPRAMq-MUOYrPIIrBEIsUON"]),
  (0x1800, [
    "MONGOLIÓBIRGAiELLIPSISh$ǋ=hÓǠiCǤiŭöSiTODO,OFT HYPH+h$ĽBEƝBĊDARYÏ_hÓM$CHUǋ=n ǠiNIRUGUiFRE^ĺ",
    "ĳõ<CTOR ÍvČvƋiVOWELõĚ>ORiFRE^ĺĳõ<CTOR ƀiŦiįiĤiĥiĴiŁiľiŉiŊiŋ"]),
  (0x1820, [
    "MONGOLI$Çi:EjIjOjUjOEjUEjEEjNAjÎjBAjPAjQAjGAj=j~iËAj!i:*jDAjÔjJAjYAjRAjWAjFAjKAjÚjTSAjZAj!",
    "AjZRAjL!jZHIjCHIjTODO ƇVOWELÂoEoIoOoUoOEoUEoÎoBAoPAoQAoGAo=o*oDAoÔoJAoTSAoYAoWAoKAoGAAo!Ao",
    "JIAoNIAoDZAiËIB^EmInYmUEnmÎmKAmGAm!mPAlEĄl^*mDAmJAmFAmGAAm!AmTSAmZAmRAAmÔmZ!i:M$CHU IpKApR",
    "ApFApZ!jÔ&æöS"]),
  (0x1880, [
    "MONGOLI$:.I G.I ǌ ÍqȂ ÍqDA=RUqUBADA=qƖUBADA=qB.UDAqÿB.UDAqAqIqKAqĔqCAqƅqǜqŔqNNAq*qDAqPAqąp",
    ",SAp Z!rAqAHjTODO .I G.I *vZ!jM$CHU .I G.I ŠwĔwCAwJ!wƅwǉw*wD!v,SAv CYAwZ!xAj.I G.I āUrYAjM",
    "$CHU .I G.I B!j.I G.I DAG.GAjM$CHU .I G.I L!"]),
  (0x18b0, [
    "C$ADI$ȘICS OYlAYmAYlWAYlPOYmAYmWOYl*YlKAYmWAYl=YlNOYmAYl~YjƬOYkAYkHOYjSĄYjƬHWOYjS YOYmAYlR",
    "AYlNWIlOJIBWAY NWIlNWIIlOJIBWAY NWIIlNWOlOJIBWAY NWOlNWOOlOJIBWAY NWOOlRWEEnIoInOoOnAlOJIB",
    "WAY PtTtKtCtMtNs,tHlEASÛN WlWESÛN WlF%.ßǀlƻRAISÀölR-CRE^RWElļLOOm~AlTHWEoAmTHWEoOOlǜAlTLHW",
    "EoOOjƬAYISI,HWErOOp HOOjS CARRIþGWUrD+^GEErGAAsWAjƬAYISI JUUjS CARRIþJWAlBEAVþD+^LtRlCARRI",
    "þDâȍ"]),
  (0x1900, [
    "LIMBU VOWEL-CARRIþ<TÛf:KAgÚgGAgŠgĔgCAgÔgJAh!gY$g*gċgDAh!gNAgPAgągBAh!g=gYAgRAg~gWAfË!gSAgA",
    "f:!gGY$gTRA"]),
  (0x1920, ["LIMBUûAgIgUgEEgAIgOOgAUgEgOfƒJO%ED:YAmRAmWA"]),
  (0x1930, ["LIMBU;KAgĔgǌg*gNAgPAg=gRAg~fÊMUKPHR+GgKEMPHR+GfÂ,A-I"]),
  (0x1940, ["LIMBUÊLOO"]),
  (0x1944, [
    "LIMBU EXCóŗgQUESĳÏgŦgįgĤgĥgĴgŁgľgŉgŊgŋa*I <:KAfXAfĔfTSAeËAe:YAf*fċf~fPAfąf=fFAfVAf!fQAfÚfT",
    "S!fNAeÇe:IfEEgHfUfOOgfUEfEeÇUEfI"]),
  (0x1970, ["*I <:TÍ-2i3i4i5i6"]),
  (0x1980, [
    "NEW *I LUE:ŬQAlėQAlŬKAmXAmĔlėKAmXAmĔlŬTSAmSAmYAlėTSAlǹ,AlėYAlŬ*mċmNAlė*mċmNAlŬPAmąm=lėPAmą",
    "m=lŬFAmVAm~lėFAmVAm~lŬ!mDAmBAlė!mDAmBAlŬKVAmXVAlėKVAmXVAlŬSUAlǹ,UA"]),
  (0x19b0, [
    "NEW *I LUEûVOWEL,ĞĮ_lAAlIIlUmUlElAElOmAlUElAYmAYlUYlOYmAYlUEYlIYk:ƻVmNGnmMmKmDmBj^TÍÏ-1o2"]),
  (0x19d0, ["NEW *I LU^ŦkįkĤkĥkĴkŁkľkŉkŊkŋkċM į"]),
  (0x19de, [
    "NEW *I LUEÊ~EnVaKHM_ŢP>!=S>fMUOY KOETfPII KOETfBEI KOETgUÖKOETfPRAM KOETj-MUOY KOETkPII KO",
    "ETkBEI KOETlUÖKOETfDAP KOETi-MUOY KOETjPII KOETjBEI KOETkUÖKOETjPRAM KOETfTUTEYAS>fMUOY RO",
    "CfPII ROCfBEI ROCgUÖROCfPRAM ROCj-MUOY ROCkPII ROCkBEI ROClUÖROCfDAP ROCi-MUOY ROCjPII ROC",
    "jBEI ROCkUÖROCjPRAM ROCaBUG%ESE:KAiGAiĔiNGKAiPAiBAi=iMPAi*iDAiNAjRAiCAiJAiİiNYCAiYAiRAi~iV",
    "Ag^ƤAgEÇh:!hûIiUiEiOiAE"]),
  (0x1a1e, [
    "BUG%ES^P.~WAh+D OFõŜa*I ċM:ŬKAhÚhKXAgėKAiXAhÚgĔgŬCAhÔgėCAgǹ,AgėÔgİgRA*gŬR>!gDAgėR>!gR$AgŬ*",
    "hċgė*hċgNAgBAgŬPAhąhFAgėPAhFAhąg=gėYAgŬYAgRAhUEg~gLUEgWAgŬS!iSAiAh!gĪfÇf:ė!gIhIgUhUgEEgOOg",
    "~EgGRE>,Af CONSON$TÊMEDIÆRAu~p~ TÎ ~IfÊ=I KÎ ~If CONSON$TÊƻĔpėPApŬR>! OR ėPAp=pBAoÂ,A"]),
  (0x1a60, [
    "*I ċMÂ,AKOTfûAg=I,>gAAgTÜ AAgIhIgUEhUEhhUgOhAĬhYgEgAEgOOgAIgċM AIgOAãfÊ=I KÎgTÍ-1j2gKHU+ T",
    "Í-3o4o5gRA !AMg=I,AMgKHU+-LU^KAR$"]),
  (0x1a7f, ["*I ċMǋīƵRYPTOGRAMMÕöf ĞA ŦjįjĤjĥjĴjŁjľjŉjŊjŋ"]),
  (0x1a90, ["*I ċM ċM ŦjįjĤjĥjĴjŁjľjŉjŊjŋ"]),
  (0x1aa0, ["*I ċMÊWIÎjWAAKfÂ,AW$fÊKEOWgHOYgDOK=IgŰƐR$Ag=I YAMOKgKA$jKUUfÂ,>KA$lKUUfÊHÎfǔAÎ"]),
  (0x1ab0, [
    "đīÁĘD ƷACñdţ-ǀd%F%ITYdĶÅdǈáödX-XĬdWIGGLY ķĬdġÏĬdÈġÏĬdŮñR.IZìȆĬcÉřRONG ñR.IZìȆĬcÁǏSESãdÈǏSE",
    "SãdǏSESĬh ƃ~Ydƨ;WĬfŏWĬdÃǏSIS őĒdÄǏSIS őàdÃǏSISĬ ĒdÄǏSISĬ àcÉǓïSãcÁNƿÊŒdƖÈARCHãdǳÊŒdÈǳÊŒfÂĬ",
    "dǈáę ACñdƨ;%SƉGiRiT"]),
  (0x1b00, [
    "BAķSEÊULU RICEMkCǦfǔECEKfÂ,URÎfÊBISAHfÇKARAk TEDŃf:IKARAl TEDŃgUKARAl TEDŃgRA REPAn TEDŃg~",
    " <Ĕk TEDŃgEKARAfÇIKARAf:OKARAl TEDŃgKAi =!PR$AgGAi GORAgĔgCAi ~CAgJAi J_Agİg* L>IKiMURDA =",
    "!PR$AgDA MURDA .PAPR$Ap=!PR$AgNA RAMB>g*h *WAgDAi =DUgNAgPAi KAP.gBAi KEMBÎg=gYAgRAg~gWAe^",
    "ƤA,AGAjPAheE:!fÊR_EK$fûTEDŃgULUj,ARIgSUKUk ILUTgRA REPAn TEDŃg~ <Ĕk TEDŃgT.ÉiÁREPAjTEDŃjRE",
    "PA TEDŃgPEPETl TEDŃe^ADEG ADEGeE:KAF,ASAKhHOT,ASAKgTZIR,ASAKgEF,ASAKgVƭASAKgZȍASAKfÇSYURA,",
    "ASAKgRÔÕJİ"]),
  (0x1b50, [
    "BAķS^ŦfįfĤfĥfĴfŁfľfŉfŊfŋfP$TIgA=DAfW%DUfCARIK PAMŃKAHkĽKIk Ě_+fPAM++GfMUSIC.ŢDONGn+GnŃnÎo,",
    "URÎnÉnA+GnEŃnAÉnÎ GEDElÒǋīÁTEGEHp+DEPpKEMPULtLIpJEGOG$pKEMPUǍJEGOG$tLI&JEGOG$pB+DEpGONGlŢǶ",
    "HÌġ DUGsAGpCLOSÀTUKu*KmǢHÌġ PÎsŃpCLOSÀP~KvLUKpġ PÉfP$TI L$TÎgA=DA L$TÎ"]),
  (0x1b80, [
    "SUND$ESEÊP$YECEKkÎ~YARlWISADiÇi:IjUiÇEi:OjEkUjKAjQAjGAjĔjCAjJAjZAjİj*jDAjNAjPAjFAjVAjBAj=j",
    "YAjRAj~jWAh^ƤAhE:XAj!h^CONSON$TÊPAMÉK.tİKRAs$YIKUhEûPÎHULUk$YUKUlAE~+GlOȇkAMEPETk$EU<ŃiÊPA",
    "=AEHjǽh^CONSON$TÊPASÎÓ=wWAhE:Úh^ƤYAiŦiįiĤiĥiĴiŁiľiŉiŊiŋiAVAGRA!hE:REUj<UjB!jƻKkMaBA*KÇeËIȅ",
    "ŃUN Ae:!eËIȅŃUN !e:MäAILÁ!fBAfKARO BAfPAeËIȅŃUN PAe:NAfMäAILÁNAfWAeËIȅŃUN WAe:PAKPAK WAfGA",
    "eËIȅŃUN GAe:JAfDAfRAeËIȅŃUN RAe:=eËIȅŃUN =fOUTH_N *e:NORTH_N *eËAfIȅŃUN,Ae:MäAILÉ,AfYAeËIȅ",
    "ŃUN YAe:Ĕf~eËIȅŃUN ~e:İfCAfNDAfMBAfIfUeÊTOMPIeûEfPAKPAK EfEEfIfKARO IfOfKARO OfUg ĝĽȅŃUN,A",
    "e CONSON$TÊNGoHfPÎOL>g$ONGON$"]),
  (0x1bfc, [
    "BA*KŢīDU NA METEKjP%ARBORASjJUDULjPÎOL>a<PÔ:KAf~eÚeGAf~eĔeCAeÔeJAeİe*eċeDAeNAePAf~eąeFAf~e",
    "BAf~e=eM~eTSAg!eDZAeYAeRAe~e!eH~eVAdËAe!d:WAdÇdƒJO%ED:YAkRAdûAAeIeOfOeUfUeEd CONSON$TÊKnMn",
    "LnNnPnRnTnNY%-DOnKÎdÊR$eNUK*"]),
  (0x1c3b, ["<PÔ PǷ *-ROLhNYET THYOOM *-ROLhC_-WAhTSă C_-WAkeŦeįeĤeĥeĴeŁeľeŉeŊeŋ"]),
  (0x1c4d, [
    "<PÔ:ƅeǜeŔaOL CHIKI ŦjįjĤjĥjĴjŁjľjŉjŊjŋhý~i>hIÇGhýÎi.i~AhIÇAKkJkMkWhýLIiISjHi%YiIRiLUiUCjDj",
    "NNjYi<iEPjDDi+i_RiLOiOTTjBjVjHhI MU TTUŔGjGAAH~A TTUŔAGjMU-GAAH~A TTUŔAGjRE~AjąARKAAjA!DjP",
    "Ƿ MUCAADmÈMUCAADaCYRILLIC;RĊDÀVEjȇ-<GGÀDEjNďOjWID^ESjTÜ TEjƋ-<GGÀTEjTÜ HŞÂmY>jUNBL+DÀUK"]),
  (0x1c90, [
    "GEORGIÓM*VRULI|$pB$pG$pDONp+pV%pZ+pT$p%pK$p~SpM$pNARpONpĚpZ!RpRAEoŷ$o|*RpUNpąRpÚRpGH$pQARo",
    "ŷH%o|CH%q$pJILpCILpÔRpX$pJH$p!EpHEqIEpWEp!RpHOEpFIpYNpELIFIpŏG$oƌ%"]),
  (0x1cbd, [
    "GEORGIÓM*VRULIƌ+o|HŞÂp~BI.ÂaSUND$ES^PǷ īDU,URYAo PÎȇqURNA=pCAKRAp<U,A*ĔpKA,A*ĔpDA,A*ĔpBA,A",
    "*Ĕ"]),
  (0x1cd0, [
    "VEDÕTÙKARSH$AfÍĄRAfÙPR+ÚdICÊNIHSHVASAgYAJURVEDÕMIDķ,VARI*dÕTÙYAJURVEDÕAGGRAV>À%DEP+Dâ,VARI",
    "*p%DEP+Dâ,VARI*pK>!KA %DEP+Dâ,VARI*gCǦĬgYAJURVEDÕK>!KA %DEP+Dâ,VARI*,CHROED_gĘ,VARI*gǈ<,VA",
    "RI*gK>!KA $UD>*gȎgæǅùgÿǅùgRIGVEDÕKASHMIRI %DEP+Dâ,VARI*g>!RVAVEDÕ%DEP+Dâ,VARI*dICÊȂ,VARI*h",
    " UD>*gŰȂ UD>*gȂ $UD>*gŰȂ $UD>*gȂ UD>*&Ņi$UD>*&Ņgǌ $*RGOMUÚiBAHIRGOMUÚiVA=GOMUÚq&ŅgTIRYAKgH",
    "EXIƚ ƇǌgƇǌgRTHÎ Ƈǌgǌ UB!YAĨMUÚgŞ!ȂgƐŞ!ȂdÕTÙCǦãdICÊJIHVAMULIYAgUPADHM$IYAg>IKRA=dÕTÙŻŒgÈŻŒd",
    "ICÊÈǌ $*RGOMUÚ"]),
  (0x1d00, [
    "ƨ ūŤAfEb;ŏAEb ūŤüRÀBeCeDeETHfb;ŏġ EdIb ūŤJeKeL ĐeMeŰNeOeġ ObŎIDEWAYS Okġ OkO Đb;ŏOEb ūŤOUb",
    ";ń āOcBOTTOM āOb ūŤPeŰReŏReTeUbŎIDEWAYS UkDIA_ESIZÀUkŏMb ūŤVeWeZeEZHb:VOICÀ~RYNGEȍPIR$TbÇ%",
    "aǫ ūŤGAM=eóDAePIeRHOePSIaCYRILLÕūŤELaMODIFI_:ŤAkEjBjüRÀBjDjEjŰEjGjHjIjJjKjLjMjNjŰNjOkUjPjR",
    "jTjUjWgþūAiŏAi.ąiŏAEiBiDiEiSCHWAiġ Eiŏġ EiGiŏIiKiMi+GiOiġ Oiń āOiBOTTOM āOiPiTiUiSIDEWAYS ",
    "UiŏMiViA%iBE*iǫ GAM=iDEL*iǫ PHIiCHIaƨƒSCRIPT;IjRjUjVaǫƒSCRIPT;BE*jGAM=jRHOjPHIjCHIaƨ;UEcB&",
    "ðƍcƱðƍcF&ðƍcM&ðƍcN&ðƍcP&ðƍcR&ðƍeFĆăÐðƍbŎ&ðƍb;ǨðƍcZ&ðƍcŏGaMODIFI_:CYRILLÕ+aƨ;%SƉGcTÞSTRIKET",
    "HROUGHbœ|I Đb;IO* ĐcP Đbœ|U Đb;UPSILÖĐcB&P.>ÆăcƱP.>ÆăcF&P.>ÆăcG&P.>ÆăcK&P.>ÆăcǍP.>ÆăcM&P.>",
    "ÆăcN&P.>ÆăcP&P.>ÆăcR&P.>ÆăbŎ&P.>Æăb;ESÞP.>ÆăcV&P.>ÆăcX&P.>ÆăcZ&P.>ÆăbƂ&ȁb;.ą&ȁcDśÐŅcĂȁcġ Ă",
    "ȁcŰġ ĂȁbŎCHWA&ȁb;I&ȁcġ ŸȁcESÞȁcƁȁcEZÞȁaMODIFIþūŏ.ąiCj&ƶiETHiŰġ EiFiö<ưJ ĐiSǚGiŏHiI ĐjO*iŤI",
    "k ĐiJ&ǊED-ŅiǍȁjP.>ÆăiŤLiMśiŏM&Ƈ<GiN&ÃăkȁiŤNiüRÀOiPHIiSśiESHiǨP.>ÆăiUĎjPSIǄiŤUiVśiŏViZj&ȁkƶ",
    "iEZHiTHE*ađīÁǾÀũ ACñfę ACñcÉ,NAKEĬeUSP+SŖÏcÁź-ędũ-źdź-ũdę-źdũ-ę-ũdę-ũ-ędƨ;RĬdƧ-źdź-ƧdÈƷŒdO",
    "GÍKãdZIGZAGĬdISĬdURãeSãdƨ;FL>ĮÀġ AãeƂEfOfVe;C CEDIĪf%SƉDfETHfGe ūŤGe;KfLe ūŤLhMe;Ne ūŤNhRe",
    ";R ROTUNDAeŎe;ȇ,fZf.ąfBgE*eŎCHWAe;FfǍĘȋƍfŸŮñR.IZìȆfPfESHfƁŮñR.IZìȆfWeƂ&ţe;ŸţfƁţdôTŀãdKAVYK",
    "A őàlĒdƲőĒdWID^ƖBRIDGEĬdȎ ĒdDE<ĳÏdÈƖƧĬd.MOST ĹĬdÃšãdÄšÐćšĬaƨƌ&ǀĬbƂ&ǀĬb|Bſb;Bſb|BƓb;BƓb|B&ķ",
    "Ĭb;B&ķĬb|C&CEDILLȓęb;C&CEDILLȓęb|Dſb;Dſb|DƓb;DƓb|ƱķĬb;ƱķĬb|ƱCEDIĪb;ƱCEDIĪb|ƱȌĬb;ƱȌĬb|ĂźÐũb",
    ";ĂźÐũb|ĂźÐęb;ĂźÐęb|ĂȌĬb;ĂȌĬb|ĂƍĬb;ĂƍĬb|ĂCEDILLȓƧb;ĂCEDILLȓƧb|Fſb;Fſb|G&źb;G&źb|Hſb;Hſb|HƓb",
    ";HƓb|Þţb;Þţb|ÞCEDIĪb;ÞCEDIĪb|ÞƧĬb;ÞƧĬb|I&ƍĬb;I&ƍĬb|I&ţÐęb;I&ţÐęb|K&ęb;K&ęb|KƓb;KƓb|K&ķĬb;K",
    "&ķĬb|LƓb;LƓb|LƓÐźb;LƓÐźb|ǍķĬb;ǍķĬb|ǍȌĬb;ǍȌĬb|M&ęb;M&ęb|Mſb;Mſb|MƓb;MƓb|Nſb;Nſb|NƓb;NƓb|N&ķ",
    "Ĭb;N&ķĬb|N&ȌĬb;N&ȌĬb|ŸƍÐęb;ŸƍÐęb|ŸƍÐţb;ŸƍÐţb|ŸźÐũb;ŸźÐũb|ŸźÐęb;ŸźÐęb|P&ęb;P&ęb|Pſb;Pſb|Rſb",
    ";Rſb|RƓb;RƓb|RƓÐźb;RƓÐźb|R&ķĬb;R&ķĬbŷſbŎſbŷƓbŎƓbŷ&ęÐƲŒbŎ&ęÐƲŒbŷ&ǭÐƲŒbŎ&ǭÐƲŒbŷƓÐƲŒbŎƓÐƲŒb|T",
    "ſb;Tſb|TƓb;TƓb|ǨķĬb;ǨķĬb|ǨȌĬb;ǨȌĬb|ƁţĬb;ƁţĬb|ƁƍĬb;ƁƍĬb|ƁȌĬb;ƁȌĬb|ƁƍÐęb;ƁƍÐęb|ƁźÐţb;ƁźÐţb|V",
    "&ƍb;V&ƍb|VƓb;VƓb|W&ũb;W&ũb|W&ęb;W&ęb|W&ţb;W&ţb|Wſb;Wſb|WƓb;WƓb|Xſb;Xſb|X&ţb;X&ţb|Yſb;Yſb|Z",
    "&Ȍb;Z&Ȍb|ZƓb;ZƓb|Z&ķĬb;Z&ķĬcÞķĬcǨţcW&ŻŒcY&ŻŒbƂ&Äāǀb;ȇ,ſe&ǡƛfHIGHȆbŷ!RP,b;DEL*bƌƓbƂƓbƌśãbƂś",
    "ãbƌ&ȌÐębƂ&ȌÐębƌ&ȌÐũbƂ&ȌÐũbƌ&ȌÐăãbƂ&ȌÐăãbƌ&ȌÐƍbƂ&ȌÐƍbƌ&ȌÐȎbƂ&ȌÐȎbƌ&ƧÐębƂ&ƧÐębƌ&ƧÐũbƂ&ƧÐũbƌ&",
    "ƧÐăãbƂ&ƧÐăãbƌ&ƧÐƍbƂ&ƧÐƍbƌ&ƧÐȎbƂ&ƧÐȎb|EƓb;EƓb|Eśãb;Eśãb|Ăƍb;Ăƍb|ĂȌÐęb;ĂȌÐęb|ĂȌÐũb;ĂȌÐũb|ĂȌÐ",
    "ăãb;ĂȌÐăãb|ĂȌÐƍb;ĂȌÐƍb|ĂȌÐȎb;ĂȌÐȎb|Iśãb;Iśãb|IƓb;IƓb|OƓb;OƓb|Ośãb;Ośãb|ŸȌÐęb;ŸȌÐęb|ŸȌÐũb;Ÿ",
    "ȌÐũb|ŸȌÐăãb;ŸȌÐăãb|ŸȌÐƍb;ŸȌÐƍb|ŸȌÐȎb;ŸȌÐȎb|ŸĞNÐęb;ŸĞNÐęb|ŸĞNÐũb;ŸĞNÐũb|ŸĞNÐăãb;ŸĞNÐăãb|ŸĞN",
    "Ðƍb;ŸĞNÐƍb|ŸĞNÐȎb;ŸĞNÐȎb|UƓb;UƓb|Uśãb;Uśãb|ƁĞNÐęb;ƁĞNÐęb|ƁĞNÐũb;ƁĞNÐũb|ƁĞNÐăãb;ƁĞNÐăãb|ƁĞN",
    "Ðƍb;ƁĞNÐƍb|ƁĞNÐȎb;ƁĞNÐȎb|Y&ũb;Y&ũb|YƓb;YƓb|Yśãb;Yśãb|Y&ƍb;Y&ƍb|MIDD<-WELSH LLb;MIDD<-WELSH",
    " LLb|MIDD<-WELSH Vb;MIDD<-WELSH Vb|Y&LOOPb;Y&LOOPaǫ;.ą&PSILIfDASIAfƞĺfƔĺfƞƘfƔƘfƞǰM+IfƔǰM+I",
    "b|.ą&PSILIfDASIAfƞĺfƔĺfƞƘfƔƘfƞǰM+IfƔǰM+Ib;EPSILƫPSILIiDASIAiƞĺiƔĺiƞƘiƔƘ"]),
  (0x1f18, ["ǫ|EPSILƫPSILIiDASIAiƞĺiƔĺiƞƘiƔƘ"]),
  (0x1f20, [
    "ǫ;E*&PSILIfDASIAfƞĺfƔĺfƞƘfƔƘfƞǰM+IfƔǰM+Ib|E*&PSILIfDASIAfƞĺfƔĺfƞƘfƔƘfƞǰM+IfƔǰM+Ib;IO*&PSIL",
    "IgDASIAgƞĺgƔĺgƞƘgƔƘgƞǰM+IgƔǰM+Ib|IO*&PSILIgDASIAgƞĺgƔĺgƞƘgƔƘgƞǰM+IgƔǰM+Ib;OMICRƫPSILIiDASI",
    "AiƞĺiƔĺiƞƘiƔƘ"]),
  (0x1f48, ["ǫ|OMICRƫPSILIiDASIAiƞĺiƔĺiƞƘiƔƘ"]),
  (0x1f50, ["ǫ;UPSILƫPSILIiDASIAiƞĺiƔĺiƞƘiƔƘiƞǰM+IiƔǰM+I"]),
  (0x1f59, ["ǫ|UPSILƫDASIA"]),
  (0x1f5b, ["ǫ|UPSILƫƔĺ"]),
  (0x1f5d, ["ǫ|UPSILƫƔƘ"]),
  (0x1f5f, [
    "ǫ|UPSILƫƔǰM+Ib;OMEGA&PSILIiDASIAiƞĺiƔĺiƞƘiƔƘiƞǰM+IiƔǰM+Ib|OMEGA&PSILIiDASIAiƞĺiƔĺiƞƘiƔƘiƞǰ",
    "M+IiƔǰM+Ib;.ą&ĺfƘcEPSILƫĺiƘd*&ĺfƘcIO*&ĺgƘcOMICRƫĺiƘcUPSILƫĺiƘcOMEGA&ĺiƘ"]),
  (0x1f80, [
    "ǫ;.ą&ƞYPOƊfƔYPOƊfƞĺÐYPOƊfƔĺÐYPOƊfƞƘÐYPOƊfƔƘÐYPOƊfƞǰM+IÐYPOƊfƔǰM+IÐYPOƊb|.ą&ƞĭSƊfƔĭSƊfƞĺÐĭS",
    "ƊfƔĺÐĭSƊfƞƘÐĭSƊfƔƘÐĭSƊfƞǰM+IÐĭSƊfƔǰM+IÐĭSƊb;E*&ƞYPOƊfƔYPOƊfƞĺÐYPOƊfƔĺÐYPOƊfƞƘÐYPOƊfƔƘÐYPOƊ",
    "fƞǰM+IÐYPOƊfƔǰM+IÐYPOƊb|E*&ƞĭSƊfƔĭSƊfƞĺÐĭSƊfƔĺÐĭSƊfƞƘÐĭSƊfƔƘÐĭSƊfƞǰM+IÐĭSƊfƔǰM+IÐĭSƊb;OMEG",
    "A&ƞYPOƊiƔYPOƊiƞĺÐYPOƊiƔĺÐYPOƊiƞƘÐYPOƊiƔƘÐYPOƊiƞǰM+IÐYPOƊiƔǰM+IÐYPOƊb|OMEGA&ƞĭSƊiƔĭSƊiƞĺÐĭS",
    "ƊiƔĺÐĭSƊiƞƘÐĭSƊiƔƘÐĭSƊiƞǰM+IÐĭSƊiƔǰM+IÐĭSƊb;.ą&VRACHYfźfĺÐYPOƊfYPOƊfƘÐYPOƊ"]),
  (0x1fb6, [
    "ǫ;.ą&ǰM+IjÐYPOƊb|.ą&VRACHYfźfĺfƘfĭSƊb KORONIScĭSƊcPSILIcǰM+IcDI.YTIKȓǰM+Ib;E*&ĺÐYPOƊfYPOƊf",
    "ƘÐYPOƊ"]),
  (0x1fc6, ["ǫ;E*&ǰM+IjÐYPOƊb|EPSILƫĺiƘd*&ĺfƘfĭSƊb ƞĺdƘdǰM+Ib;IO*&VRACHYgźgDI.YTIKȓĺoƘ"]),
  (0x1fd6, ["ǫ;IO*&ǰM+IgDI.YTIKȓǰM+Ib|IO*&VRACHYgźgĺgƘ"]),
  (0x1fdd, [
    "ǫ ƔĺdƘdǰM+Ib;UPSILƫVRACHYiźiDI.YTIKȓĺqƘcRHŸPSILIfDASIAcUPSILƫǰM+IiDI.YTIKȓǰM+Ib|UPSILƫVRAC",
    "HYiźiĺiƘcRHŸDASIAb DI.YTIKȓĺkƘcĺ"]),
  (0x1ff2, ["ǫ;OMEGA&ĺÐYPOƊiYPOƊiƘÐYPOƊ"]),
  (0x1ff6, ["ǫ;OMEGA&ǰM+ImÐYPOƊb|OMICRƫĺiƘeEGA&ĺiƘiĭSƊb ƘcDASIA"])]

end Monomorph.Text.CharacterName
