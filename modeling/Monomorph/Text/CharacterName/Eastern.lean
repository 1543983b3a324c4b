/-!
Shortened names of the characters from U+3000 to U+FFFF: the syllables and signs of Japanese,
Chinese, Korean and Yi, more scripts of Africa and Asia, and forms of letters and punctuation.
-/

namespace Monomorph.Text.CharacterName

/-- Runs of these characters: the first one, and the text of their shortened names in pieces. -/
def easternRuns : List (Nat × List String) := [
  (0x3000, [
    "IDEOGRčIC,PACEjǋ=hÕǠaDITTOÏaJAP$ES^%DUSTRI.řäŞÒaIDEOGRčÕIÛŗiCLOSÉÏiNĩZ_OaÃƯïaÄƯïaÃÈƯïaÄÈƯï",
    "aÃCORNþïaÄCORNþïaÃ×CORNþïaÄ×CORNþïaÃîL+ňƉïaÄîL+ňƉïaPOST.ÏaGE*ÏaÃTORTOISEŪLL ïaÄTORTOISEŪLL",
    " ïaÃ×L+ňƉïaÄ×L+ňƉïaÃ×TORTOISEŪLL ïaÄ×TORTOISEŪLL ïaÃƸǓïaÄƸǓïaWAŲDASHaŰÈPRIM^QUOTŗaÈPRIM^QU",
    "OTŗaėÈPRIM^QUOTŗaPOST.Ï òaHÎZHOU NUM_ÆÍmČmƋmƀmǑl.żmğlÆĈmŶaIDEOGRčÕ<VEL TÍÏiRISÁTÍÏiDEĚTÁTÍ",
    "ÏiâEŻTÍÏaHÎULžáƲTÍÏe ÈƲTÍÏaWAVY DASHaĀKŝREPE>Ïi&VOICED,ĊDÏiÏ ĿȄi&VOICED,ĊDÏ ĿȄiÏ ēȄaøD POS",
    "T.ÏaIDEOGRčÕTE<GRč ǒFEEDõĚ>ORÒaHÎZHOU NUM_.ųlÆǝmŹTYaĀIDEOGRčÕIÛŗa=SUÏaĚT .ÛNŗaIDEOGRčÕĺĳ %",
    "DIC>ORiāFILL,PACE"]),
  (0x3041, [
    "HIRAGŝūAf$AÇfŝūIf$A:IfŝūUf$A:UfŝūEf$A:EfŝūOf$A:OiKAiGAiKIiGIiKUiGUiKEiGEiKOiGOfŝƤAf$A:ZAfŝ",
    "ƤIf$A:ZIfŝƤUf$A:ZUfŝƤEf$A:ZEfŝƤOf$A:ZOi*iDAiTIiDIfŝūTUf$A:TUiDUiTEiDEiTOiDOiNAjIjUjEjOi!iB",
    "AiPAiHIiBIiPIiHUiBUiPUiHEiBEiPEiHOiBOiPOi=iMIjUjEjOfŝūYAf$A:YAfŝūYUf$A:YUfŝūYOf$A:YOiRAjIj",
    "UjEjOfŝūWAf$A:WAjIjEjOiNiVUfŝūKAiE"]),
  (0x3099, [
    "đīÁKA*K$A-HIRAGŝVOICED,ĊDÏp$AõMI-VOICED,ĊDÏaKA*K$A-HIRAGŝVOICED,ĊDÏm$AõMI-VOICED,ĊDÏaHIRAG",
    "ŝIÛŗgVOICÀIÛŗgDIGRč YORIaKA*K$A-HIRAGŝÈHYPH+eŝūAe$AÇeŝūIe$A:IeŝūUe$A:UeŝūEe$A:EeŝūOe$A:OhK",
    "AhGAhKIhGIhKUhGUhKEhGEhKOhGOeŝƤAe$A:ZAeŝƤIe$A:ZIeŝƤUe$A:ZUeŝƤEe$A:ZEeŝƤOe$A:ZOh*hDAhTIhDIe",
    "ŝūTUe$A:TUhDUhTEhDEhTOhDOhNAiIiUiEiOh!hBAhPAhHIhBIhPIhHUhBUhPUhHEhBEhPEhHOhBOhPOh=hMIiUiEi",
    "OeŝūYAe$A:YAeŝūYUe$A:YUeŝūYOe$A:YOhRAiIiUiEiOeŝūWAe$A:WAiIiEiOhNhVUeŝūKAhEe$A:VAiIiEiOgȋög",
    "-HIRAGŝĭȇED,ĊDÏeŝIÛŗfVOICÀIÛŗfDIGRč KOTO"]),
  (0x3105, [
    "BOPOMOFO:BjPjMjFjDjTjNjLjGjKjHjJjQjXjZHjCHiËHi:RjZjCiËiÇi:OjEkHiÇIi:EIiÇUi:OUj$j+jÎj+Gj_jI",
    "jUjIUjVjNGjGNjIHjOſjNN"]),
  (0x3131, [
    "HÎUL:ǕeËSÎǕe:Ǖ-ŨfNÑNi-CÑCjǸfTIKEUTeËSÎTIKEUTe:RÑLi-ǕjMÑMjƥjŨjTHÑTHjPHÑPHjǸfMÑMfƥeËSÎƥe:ƥ-Ũ",
    "fŨeËSÎŨe:IEŃfCÑCeËSÎCÑCe:CHÑCHfKHÑKHfTHÑTHfPHÑPHfǸeÇfEe:YAhEfEOgfYEOhfOfWAhEfOEfYOfUfWEOhg",
    "IfYUfEUfYIfIe FILL_eËSÎNÑNe:NÑN-TIKEUTjŨjP$ŨfRÑL-Ǖ-ŨjTIKEUTjƥ-ŨjP$ŨjYEOR%ǸfMÑM-ƥjŨjP$ŨfKAP",
    "YEĊMÑMfƥ-ǕhTIKEUThŨ-ǕjTIKEUThCÑChTHÑTHfKAPYEĊƥlSSÎƥfŨ-ǕhNÑNhTIKEUThƥhCÑCfP$ŨeËSÎIEŃe:YESIE",
    "Ńl-ŨmP$ŨfKAPYEĊPHÑPHeËSÎǸe:YEOR%ǸgO-YAkEiIgU-YEOkiIeÇRAEAjE"]),
  (0x3190, [
    "IDEOGRčÕ$NO*ĳ L%KÉÏoȊSEÏoÍÏoČÏoƋÏoƀÏońÏnȋ=RKn BOTTOMÏoFIRSTÏnõCONDÏn ŹDÏoƀTHÏoHEAV+ÏoEARTH",
    "ÏoM$ÏaBOPOMOFO:BUjZIjJIjGUjEEj+NjOOkNNjIRj$Nj%NjUNNjIMjNGGiÇ%NjUNNjMi:OMkNGj%NNi ƻȖPlTlKlH",
    "i:GHjLHjZYi ƻȖGi:GWjKWjOEiÇHaCJKȑTeWGeXGeBXGdȆ,WdȑHZZgGfPfZWGdȆ,ZWGdȑHZTgZPfPWGfZWgZZeNeHd",
    "Ȇ,dȑPdȆ,PdȑDeHZfGdȆ,ZfWZeře,GdȑPDfZeTNdȆ,ZZfWGdȑHXWGfZZZGePGeQ"]),
  (0x31f0, [
    "KA*KŝūKUgSIhUgTOgNUg!gHIhUhEhOgMUgRAhIhUhEhOaǏSIZÀHÎUL ǕkNÑNkTIKEUTkRÑLkMÑMkƥkŨkIEŃkCÑClHÑ",
    "CHkKHÑKHkTHÑTHkPHÑPHkǸkǕ AkNÑN AkTIKEUT AkRÑL AkMÑM Akƥ AkŨ AkIEŃ AkCÑC AlHÑCH AkKHÑKH AkT",
    "HÑTH AkPHÑPH AkǸ AkCÑC UfKOREÓÔRACơOJEONq HU"]),
  (0x3220, [
    "ǏSIZÀIDEOGRč ÍnČnƋnƀnǑmżmğm ĈnŶmųm MOONnFIREnWǛoOODnMET.nEARTHm,UNmřOCKm !VEm,OCIETYm NAME",
    "m,PECI.m F%$CI.nCONGR>U~ĳn~BORnREPRESânCÜmřUDYm,ǱVISEm +ÛPRISEnRESOURCEnÜI$CEnFESTIV.nREST",
    "mõLFm REACHaøD IDEOGRč QUESĳlK%D_GARĮk,CHOOLk KOTOdNƿų ONȏģeĩǝ ONȏģfŹĦONȏģfĝĦONȏģfFIFĦONȏģ",
    "eǿĦONȏģeƿğĦONȏģeĩĈY ONȏģaĚTN_SHIPÂaøD Nĩǝ ÍhČhƋhƀhǑgżgğg ĈhŶfŹTYgĦÍhČhƋhƀhǑdHÎUL ǕiNÑNiTIK",
    "EUTiRÑLiMÑMiƥiŨiIEŃiCÑCjHÑCHiKHÑKHiTHÑTHiPHÑPHiǸiǕ AiNÑN AiTIKEUT AiRÑL AiMÑM Aiƥ AiŨ AiIE",
    "Ń AiCÑC AjHÑCH AiKHÑKH AiTHÑTH AiPHÑPH AiǸ AdKOREÓÔRACơÔMKOnJUEUIdHÎUL IEŃ UaKORE$řäŞÒaøD ",
    "IDEOGRč ÍlČlƋlƀlǑkżkğk ĈlŶkųk MOONlFIRElWǛmOODlMET.lEARTHk,UNkřOCKk !VEk,OCIETYk NAMEk,PEC",
    "I.k F%$CI.lCONGR>U~ĳl~BORkõCRETk =<lFE=<k,UI*B<k EXCELLâlPR%Tl>ĮĳlITEMlRESTlCOPYnRRECTlHIG",
    "HlñRElǹlĒlàlMEDIC%ElRELIGŖkřUDYk,ǱVISEk +ÛPRISElRESOURCElÜI$CElNIGHTdNĩŹTYżiğgĦĈhŶfĝTYgĦÍh",
    "ČhƋhƀhǑgTYżiğgĦĈhŶfFIFTYaIDEOGRčÕTE<GRčŢĝ J$UARYrFEBRUARYr=RCHrAPRILr=YrJUNEtLYrAUGUSTqõPT",
    "EMB_q OCTOB_rNOVEMB_rDECEMB_aSŕ^HGd_GdEVaLIMITÀLIABILITYÂaøD KA*KŝAiIiUiEiOiKAjIjUjEjOh$A,",
    "AjĽj,Ujõj,Ohŝ*iTIjUjEjOiNAjIjUjEjOi!iHIjUjEjOi=iMIjUjEjOiYAjUjOiRAjIjUjEjOiWAjIjEjOaSŕ^_A ",
    "NAM^REIWAdAPA>OeRUHUAd$PEAdAARUd%ÉUeTIdUONdESUKUUDOeEKAAdONSUeOMUdKAIRIfR>TOgORIIdGARONe$=",
    "eIGAe%IIdKYURIIdGIRUDAAdKIROhGURAMUhMEETORUhW>TOdGURAMUjTONdKURUZEIROgOÍeEESUeORUNAfOPOcƭA",
    "IKURUd$TIIMUcEĽǀUcƭâIeOc^DAASUeESIeORUdTONdN$OeOTTOd!ITUdPAASâOf>UdBAAR_UdPIASUTORUfKURUgO",
    "dBIRUdHUARADDOfIITOdBUSSY_UdHUR$eEKU*ARUdPESOe+IHIdH_UTUdP+SUeEEZIdBEE*dŽOdBORUTOdHONdPOND",
    "OdHOORUgNd=IKUROfRUeH!eRUKUdM$SYONeIKURONfRIhBAARUeEGAg>ONfETORUdYAADOgRUeU$dRITTORUfRAeUP",
    "IIfUBURUeEMUeâOG+dW>TOaIDEOGRčÕTE<GRčŢĝ HOUR Z_OwÍwČwƋwƀwǑvżvğv ĈwŶvųv E<V+wTWELVEwŹƎwƀƎwF",
    "IFƎvżƎvğƎv ĈE+wŶƎwǝx-ÍyČyƋyƀaSŕ^HPAdDAdAUcEĎc^OVdPCdDMfģDf CUBEDdIUd_A NAM^HEISEIjƭYOUWAj^",
    "*ISYOUkMEIZIdCORPORìdPA AMPSdNAdMU Ad=dKAeBdMBdGBdC.dKC.dPFdNFdMU FgGeGdKGdHZdKHZdMHZdGHZd",
    "THZdMU LeLdDLdKLdFMdNMdMU MeMdCMdKMdMMģDdCMģDdMģDdKMģDdMM CUBEDdCM CUBEDdM CUBEDdKM CUBEDd",
    "MĲSgģDdPAdKPAdMPAdGPAdRADgĲSiģDdPSdNSdMU,eSdPVdNVdMU VeVdKVdMV MEGAdPWdNWdMU WeWdKWdMW MEG",
    "AdK OHMdM OHMdAMdBQdCCeDeĲKGeOdDBdGYd!dHPd%dKKeM CAPIT.eTdLMeNeOGeXdMBœeILeOLdPHeMePMeRcƭR",
    "dVc^WBdVĲMdAĲMaIDEOGRčÕTE<GRčŢĝ DAY ÍvČvƋvƀvǑużuğu ĈvŶuųu E<V+vTWELVEvŹƎvƀƎvFIFƎużƎuğƎu ĈE",
    "+vŶƎvǝw-ÍxČxƋxƀxǑxSIXyEV+xĈxŶvŹTYy-ÍaSŕ^G."]),
  (0x4dc0, [
    "HEXAGRAM ĝ TH^CRE>IŲHEAV+oRECEPTIŲEARTHlDIFFICULĦ> TH^BEG%NÉlYOUTHFUL FOLLYlWAITÉlCONFLICT",
    "lTH^ARMYlHOLDÁTOGETH_kß*MÉk TREADÉlPEACEkřäSTILLk FELǹSHIPlGRE> POSSESSŖlMODESTYlâHUSIASMl",
    "FOLǹÉlWORK ÖTH^DECAYEDlAPĭACHlCONTEMP~ĳlBITÁTHROUGHlGRACEk,PƦÁAĚTk RETURNl%NOC+CElGRE> *MÉ",
    "lMǆCORN_SlGRE> PREPOND_$CElTH^ABYSMÆWǛoCLÉÁFIREl%FLU+CElDURìlRETRE>lGRE> POW_lĭGRESSlDARK+",
    "ÁØTH^ǘlTH^FAMILYlOPPOSIĳmBSTRUŜlDELIŵ$CEnCREASEl%CREASElBREAKTHROUGHkǋÁĨMEETk G>HEŻTOGETH_",
    "lPUSHÁUPWŞlOPPRESSŖlTH^WELLlREVOLUĳlTH^CAULDRONoAROUSÁTHUND_oKEEPÉřILL MĊ*%lDEVELOPMâlTH^=",
    "RRYÁ=ID+lABUND$CElTH^Wä__oGâáW%DoJOYOUS ~KElDISĢSŖlLIMI*ĳl%NþTRUTHkßPREPOND_$CEk AFÛǋP<ĳlB",
    "EĝEǋP<ĳ"]),
  (0xa000, [
    "YIƝITeXeePeETfXffPd>dAXeePdUOXffPdOTeXeePdEXedWUdBITfXffPfETgXggPe>eAXffPeUOXggPeOTfXffPeE",
    "XffPeUTfXffPfRXgeYTfXffPfRXgdPITfXffPfEXggPe>eAXffPeUOXggPeOTfXffPeUTfXffPfRXgeYTfXffPfRXg",
    "dBBITgXggPgEThXhhPf>fAXggPfUOXhhPfOTgXggPfEXggPfUTgXggPgRXhfYTgXggPdNBITgXggPgEXhhPf>fAXgg",
    "PfOTgXggPfUTgXggPgRXhfYTgXggPgRXhdHMITgXggPgEXhhPeěe=XffPeMUOXhhPfOTgXggPfUTgXggPgRXhfYXgg",
    "PgRXhdMITfXffPfEXggPděd=XeePdMUOTgXggPeOTfXffPeEXfeUTfXffPfRXgeYTfXffPdFITfXffPe>eAXffPeOX",
    "ffPeUTfXffPfRXgeYTfXffPdVITfXffPfETgXggPe>eAXffPeOTfXffPeEXfPeUTfXffPfRXgeYTfXffPfRXgdDITf",
    "XffPfEXggPe>eAXffPeUOXgdödDOXffPeEXffPeUTfXffPfRXgdTITfXffPfEXggPe>d*XeePdTUOTgXggPeOTfXfd",
    "ńdTEXffPeUTfXffPfRXgdDDITgXggPgEXhhPf>dŔXeePdDDUOXhhPeöeDOXggPfEXggPfUTgXggPgRXhdNDITgXggP",
    "gEXhf>fAXggPeöeDOXggPfEXggPfUTgXggPgRXhdHNITgXggPgEThXhhPf>fAXggPfUOXhfOTgXgPfEXggPfUTdNIT",
    "fXffPfEXggPeAXffPeUOXggPeOTfXffPeEXffPeUTfXffPfRXgdHLITgXggPgEXhhPf>e~XffPeLUOXhhPfOXggPe<",
    "XffPeLUTgXggPgRXhfYTgXggPgRXhdLITfXffPfETgXggPe>d~XeePdLUOTgXggPeOTfXffPd<XeePdLUTfXffPfRX",
    "geYTfXffPfRXgdGITfXffPfETgXggPe>eAXffPeUOTgXggPeOTfXffPeETfXffPeUTfXffPfRXgdKITfXffPfEXggP",
    "e>eAXffPeUOXggPeOTfXffPeETfXffPeUTfXffPfRXgdGGITgXggEXhhPf>fAXggPfUOThXhhPfOTgXggPfETgXggP",
    "fUTgXggPgRXhdMGIEXhf>fAXggPfUOXhhPfOTgXggPfEXggPfUTgXggPgRXhdHXITgXggPgEThXhhPf>fAXggPfUOT",
    "hXhhPfOTgXggPfEXggPdNGIEXhhPf>dĔXeePdNGUOThXhfOTgXggPfEXggPdHITfEXge>d!XeePdHUOTgXggPeOTfX",
    "ffPeEXffPdW>eAXffPeUOXggPeOXffPeEXffPdZITfXffPfEXggPe>eAXffPeUOXggPeOTfXffPeEXffPeUTfXffPf",
    "RXgeYTfXffPfRXgdCITfXffPfETgXggPe>eAXffPeUOXggPeOTfXffPeEXffPeUTfXffPfRXgeYTfXffPfRXgdZZIT",
    "gXggPgEThXhhPf>fAXggPfOXggPfEXggPfUXggPgRXhfYTgXggPgRXhdNZITgXggPgEXhhPf>fAXggPfUOXhfOXgPf",
    "EXgfUXggPgRXhfYTgXggPgRXhdSITcȘ<żcƝSIfPfEXggPe>eAXffPeUOXggPeOTfXffPeEXffPeUTfXffPfRXgeYTf",
    "XffPfRXgeSITgXggPgEXhhPf>fAXggPfOTgXggPfEXggPfUTgXggPfYTgXggPgRXhdZH>e!XffPeHUOXhhPfOTgXgg",
    "PfETgXggPfUTgXggPgRXhfYTgXggPgRXhdCH>dÔXeePdCHUOThXhhPfOTgXggPdëTeXeePdCHUXggPgRXhfYTgXggP",
    "gRXhdRRAXgfUOXhfOTgXggPfETgXggPfUTgXggPgRXhfYTgXggPgRXhdNR>fAXggPfOXggPfETgXggPfUTgXggPgRX",
    "hfYTgXggPgRXhdSH>e!XffPeHUOXhhPfOTgXggPcȘ<ŪTfXffPcƝSHUTgXggPgRXhfYTgXggPgRXhdR>eAXffPeUOXg",
    "gPeOTfXffPeEXffPeUTfXffPfRXgeYTfXffPfRXgdJITfXffPfETgXggPeUOTgXggPeOTfXffPeUTfXffPfRXgeYTf",
    "XffPfRXgdQITfXffPfETgXggPeUOTgXggPeOTfXffPeUTfXffPfRXgeYTfXffPfRXgdJJITgXggPgEThXhhPfUOXhh",
    "PfOTgXggPfUTgXggPgRXhfYTgXggPdNJITgXggPgEThXhhPfUOXhfOTgXggPfUXggPgRXhfYTgXggPgRXheYITgXgg",
    "PgEThXhhPfUOXhhPfOTgXggPfUTgXggPdXITfXffPfETgXggPeUOXgeOTfXffPeYTfXffPfRXgdYITfXffPfETgXgg",
    "PeUOTgXggPeOTfXffPeUTfXffPfRXgeYTfXffPfRXg"]),
  (0xa490, [
    "YI RADǃQOThLIhKIThNYIPhCYPhSSIhGGOPiEPhMIhHXIThLYRhBBUThMOPhYOhPUThHXUOhT>hGAhZUPhCYThDDUR",
    "hBURhGGUOhNYOPhTUhOPhJJUThZOThPYThHMOhYIThVURhSHYhVEPhZAhJOhNZUPhJJYhGOThJJIEhWOhDUhSHURhL",
    "IEhCYiUOPiIPhHXOPhSH>hZURhSHOPhëhZZIEThNBIEhKE"]),
  (0xa4d0, [
    "LISU:BAfPAfąfDAf*fċfGAfKAfÚfJAfCAfÔfDZAfTSAh!f=fNAf~eËAe:Z!gAfĔf!fXAfH!fFAfWAeË!e:YAfŠeÇfE",
    "e:EgUfIfOfUgEgHfOEfTÙMYA TIhNA POhMYA CYAlBOlNAlJEUe PǷǋ=h ǠaVAIƝEEf+eHEEeWEEg+ePEEeBHEEfE",
    "EeMBEEeKPEEeMGBEEeGBEEeFEEeVEEeTEEfHEEeDHEEgHEEe<EeREEeDEEeNDEEeSEEdȘ<ŪEdƝZEEfHEEeCEEeJEEe",
    "NJEEeYEEeKEEeNGGEEeGEEeMEEeNEEfYEEeIe%eHIf%eWIf%ePIeBHIfIeMBIeKPIeMGBIeGBIeFIeVIeTIfHIeDHI",
    "gHIeLIeRIeDIeNDIeSIfHIeZIfHIeCIeJIeNJIeYIeKIeNGGIeGIeMIeNIfYIeAe$eNG$e!eH$eWAf$ePAeB!fAeMB",
    "AeKPAg$eMGBAeGBAeFAeVAe*eċeD!fH!e~eRAeDAeNDAeSAf!eZAf!eCAeJAeNJAeYAeKAf$eNGGAeGAe=eNAeİeOO",
    "gNeHOOeWOOhNePOOeBHOOfOOeMBOOeKPOOeMGBOOeGBOOeFOOeVOOeTOOfHOOeDHOOgHOOeLOOeROOeDOOeNDOOeSO",
    "OfHOOeZOOfHOOeCOOeJOOeNJOOeYOOeKOOeNGGOOeGOOeMOOeNOOfYOOeUfNeHUgNeWUgNePUeBHUfUeMBUeKPUeMG",
    "BUeGBUeFUeVUeTUfHUeDHUgHUeLUeRUeDUeNDUeSUfHUeZUfHUeCUeJUeNJUeYUeKUeNGGUeGUeMUeNUfYUeOfNeNG",
    "ONeHOgNeWOgNePOeBHOfOeMBOeKPOeMGBOeGBOhNeFOeVOeTOfHOeDHOgHOeLOeROeDOeNDOeSOfHOeZOfHOeCOeJO",
    "eNJOeYOeKOeNGGOeGOeMOeNOfYOeEe+eNG+eHEf+eWEf+ePEeBHEfEeMBEeKPEg+eMGBEeGBEg+eFEeVEeTEfHEeDH",
    "EgHEe<eREeDEeNDEeSEdȘ<ŪdƝZEfHEeCEeJEeNJEeYEeKEeNGGEh+eGEf+eMEeNEfYEfGeL+GTH+_dǋ=d ǠeQUESĳÏ",
    "dƝNDOáFAiKAh<,OOdŢFE+GeKE+GeTÉeNIIeBÎeFAAe*AeDÎfOONGeKŃeTONGeDO-OeJONGd ŦeįeĤeĥeĴeŁeľeŉeŊe",
    "ŋdƝNDOá=iDO"]),
  (0xa640, [
    "CYRILLIC|ZEMLYAi;ZEMLYAi|DZELOi;DZELOi|ŰDZEi;ŰDZEi|IO*i;IO*i|DJ_Vi;DJ_Vi|MONOGRč UKi;MONOG",
    "Rč UKi|BROAD OMEGAi;BROAD OMEGAi|NEUTRÆY_i;NEUTRÆY_i|Y_ƁBŀ Y_i;Y_ƁBŀ Y_i|IOTIǻY>i;IOTIǻY>i",
    "|ŰYUi;ŰYUi|IOTIǻAi;IOTIǻAi|CLOSÀƦáYUSi;CLOSÀƦáYUSi|BL+DÀYUSi;BL+DÀYUSi|IOTIǻCLOSÀƦáYUSi;IO",
    "TIǻCLOSÀƦáYUSi|YNi;YNi|ŰTSEi;ŰTSEiŷOFT DEiŎOFT DEiŷOFT ELiŎOFT ELiŷOFT EMiŎOFT EMi|MONOCƉO",
    "i;MONOCƉOi|īOCƉOi;īOCƉOi|ÈMONOCƉOi;ÈMONOCƉOi:MULTIOCƉOađīƵYRILLÕVZMETiICų MILLŖƪiÕç MILLŖƪ",
    "jú MILLŖƪaS~VONÕǙađīƵYRILLIC:UKRA%IÓIElIlYIlUlHŞÂlY_UiÕƤOFTÂiIC:OMEGAiÕKAVYKAjPAY_OKaCYRIL",
    "LÕKAVYKAhPAY_OKgIC|DWEi;DWEi|DZWEi;DZWEi|ZHWEi;ZHWEi|Cëi;Cëi|DZZEi;DZZEi|TĂðăi;TĂðăi|TWEi;",
    "TWEi|TSWEi;TSWEi|TSSEi;TSSEi|Tëi;Tëi|HWEi;HWEiŷHWEiŎHWEi|ÈOi;ÈOi|ǊÀOi;ǊÀOaMODIFI_:CYRILLÕH",
    "ŞÂoIC,OFTÂađīƵYRILLIC:EFlIOTIǻEaBAMUMÇf:KAgUgKUgEEgREEg*EgOgNYIgIg~gPAgRIIiEEg<EEEgMEEEEg*",
    "AgNDAAhJAEMgMfËUUf:MUfËHIIgIgHEUXgEUXf:KYEEhETgNUAEihJUAEgYOQfËHUf:YUQhAgNS!gKEUXgPEUXgNJE",
    "EhTEEgPUEgWUEgPEEgFEEgRUgLUgMIgNIgREUXhAEgK+gNGKWA+iGAgĔfËHOf:PUAEgFUhOMgWAgNAgLIgPIgLOQgK",
    "OgMB+gR+gM+g=gTIgKIgMOhBAAgTETgKPAgĮgNTUUfËAMBAf:FAA=EgKOVUUiGHOMfǋīÉÏ KOQNDONkTUKWâISf NJ",
    "AEMLIgǠgCǤfǋ=fõMICǤf QUESĳÏ"]),
  (0xa700, [
    "MODIFI_:CH%ES^TÙYşPÉrÎ PÉr%,HÎrÎ,HÎrşQUrÎ QUrşRUrÎ RUiEXTRA-ŬǾÀTÍĎiŬǾÀTÍĎiMID ǾÀTÍĎiėǾÀTÍĎ",
    "iEXTRA-ėǾÀTÍĎoŬǾÀǢSTEM TÍĎiŬǾÀǢSTEM TÍĎiMID ǾÀǢSTEM TÍĎiėǾÀǢSTEM TÍĎiEXTRA-ėǾÀǢSTEM TÍĎoŬǢ",
    "STEM TÍĎiŬǢSTEM TÍĎiMID ǢSTEM TÍĎiėǢSTEM TÍĎiEXTRA-ėǢSTEM TÍĎiƲĀüiö,~SHiƲƟüiēÄCORNþÎ<iRAIS",
    "ÀôÅnćÅnEXCóŗnƖEXCóŗiėƖEXCóŗhËTRESSÐŬTÍoėTÍaƨ|EGYPTOLOGǃĖFb;EGYPTOLOGǃĖFb|EGYPTOLOGǃA%b;EGY",
    "PTOLOGǃA%b|H+Gb;H+Gb|TZb;TZb|TRESILLOb;TRESILLOb|CU>RILLOb;CU>RILLOb|CU>RILLŸđ=b;CU>RILLŸđ",
    "=b ūŤFeSbƌAbƂAbƌObƂObƌUbƂUbƌVbƂVbƌV&ƟübƂV&ƟübƌYbƂYb|ŰC&öb;ŰC&öb|K Đb;K Đb|K&ǡƛb;K&ǡƛb|K ĐÐ",
    "ǡƛb;K ĐÐǡƛb|BROK+ Lb;BROK+ Lb|ǍHIGHȆb;ǍHIGHȆb|Ÿȇȑƃ~Yb;Ÿȇȑƃ~Yb|ŸLOOPb;ŸLOOPb|OOb;OOb|P Đ TH",
    "ROUGH Ȁb;P Đ THROUGH Ȁb|P&FLOURĆb;P&FLOURĆb|P&SQUIRREL Ņb;P&SQUIRREL Ņb|Q Đ THROUGH Ȁb;Q Đ",
    " THROUGH Ȁb|Q&ǡƛb;Q&ǡƛb|R ROTUNDAb;R ROTUNDAb|RUM ROTUNDAb;RUM ROTUNDAb|V&ǡƛb;V&ǡƛb|VYb;VY",
    "b|VISIGOTHÕZb;VISIGOTHÕZb|TĞN Đb;TĞN Đb|TĞN Đ THROUGH Ȁb;TĞN Đ THROUGH Ȁb|V+Db;V+Db|ETb;ET",
    "b|ISb;ISb|CONb;CONaMODIFI_:USaƨ;DUMcLUMcMUMcNUMcRUMb ūŤRUMb;TUMcUMb|%SƉDb;%SƉDb|%SƉFb;%SƉF",
    "b|%SƉGcŏ%SƉGb;ŏ%SƉGb|ŏLb;ŏLb|%SƉRb;%SƉRb|%SƉSb;%SƉSb|%SƉTb;%SƉTaMODIFI_:ėƷACñiCǤhËǣƽƪaƨŷ.T",
    "ILLObŎ.TILLOb|ŏHb;ǍȁÐBELTbË%OLOGǃöb|N&Ȁb;N&Ȁb|C&üb;C&üeP.>ÆăcÞP.>Æăb|B&FLOURĆb;B&FLOURĆb|F",
    " Đb;F Đb|VO~PUK AEb;VO~PUK AEb|VO~PUK OEb;VO~PUK OEb|VO~PUK UEb;VO~PUK UEb|G&OBLIQUEȆb;G&O",
    "BLIQUEȆb|K&OBLIQUEȆb;K&OBLIQUEȆb|N&OBLIQUEȆb;N&OBLIQUEȆb|R&OBLIQUEȆb;R&OBLIQUEȆbŷ&OBLIQUEȆ",
    "bŎ&OBLIQUEȆb|HścŰġ EbŷǚGb|ǍBELTbǮūŤIb ūŤQb|ŏKdTcJ&ǊED-ŅcCHIcBE*b;BE*b|OMEGAb;OMEGAb|U Đb;U",
    " Đb|GLOTTÆAb;GLOTTÆAb|GLOTTÆIb;GLOTTÆIb|GLOTTÆUb;GLOTTÆUb|ıPOLĆ Ob;ıPOLĆ Ob|ÎLICŝWb;ÎLICŝW",
    "b|C&P.>Æăbŷśb|Z&P.>ÆăcƱSĞTȑƃ~Yb;ƱSĞTȑƃ~Ybŷ&SĞTȑƃ~YbŎ&SĞTȑƃ~Y"]),
  (0xa7d0, ["ƨ|CLOSÀ%SƉGb;CLOSÀ%SƉG"]),
  (0xa7d3, ["ƨ;ÈTĞN"]),
  (0xa7d5, ["ƨ;ÈWYNNb|ðSCOTƬb;ðSCOTƬbŷIGMOID,bŎIGMOID,"]),
  (0xa7f2, [
    "MODIFI_:ŤCjFjQaƨ|ŰāHb;ŰāHb EPIGRčÕƤIDEWAYS IaMODIFI_:ŤH ĐgþūLIG>ƹOEaƨ ūŤŏMcEPIGRčIC:ŰFmPlƖ",
    "MlI ȇAkÇRÔÕMaSYLOTI NAGRIÇlýIlIÊDVISVARAlýUmEmOlIÊ!S$*lýKOnHOmGOnHOlIÊǌlýCOnHOmJOnHOmTTOoH",
    "OmDDOoHOmTOnHOmDOnHOmNOmPOnHOmBOnHOmMOmROmLOmRROlIËOlýHOlIûAnInUnEnOOm POETRYÏ-1v2v3v4mÊǬ^",
    "!S$*"]),
  (0xa830, ["ǖ%DÕFRAŜ ÙŕÛkȄjÿŕÛSjÍżƎTHjÙĈHjƋżƎTHSeŕÛÏeP~CEHOLD_ÏeRUPEEÏeQU$TITYÏ"]),
  (0xa840, [
    "ąGS-PA:KAhÚhGAhĔhCAhÔhJAhİh*hċhDAhNAhPAhąhBAh=hTSAj!hDZAhWAhZ!iAg ūAg:YAhRAh~gË!hAg:!gÇg:I",
    "hUhEhOhQAhXAhFAhGGAhEEgƒJO%ED:WAnYAg:ƅhǜhŔhNNAhǬ^YAhVOICE<SSĄlÀ!gÇSPIR>ÀFAgƒJO%ED:RAg,ǱFIX",
    "ED:RAg:CǦīDUgžáHEADÏg ÈHEADÏgÏĄDh ĘĄD"]),
  (0xa880, [
    "SAURASHTRAÊǌlȂkÇlAk:ImIlUmUlǎmRlǵmLlEmEkÇIk:OmOkÇUk:KAlÚlGAlŠlĔlCAlÔlJAm!lİlƅlǜlŔlǉlNNAl*l",
    "ċlDAm!lNAlPAląlBAm!l=lYAlRAl~lVAkË!lSAlAk:!lĪk CONSON$TÊ!ARUkûAAlImIlUmUlǎmRlǵmLlEmElAIlOm",
    "OlAUkÊǽkǔǦīDU"]),
  (0xa8ce, ["SAURASHTRA DäAlÈDäAlŦlįlĤlĥlĴlŁlľlŉlŊlŋ"]),
  (0xa8e0, [
    "đīÁDEV$AGARI ŦnįnĤnĥnĴnŁnľnŉnŊnŋmÇlýUmKAmNAmPAmRAmVIlIÊAVAGRA!aDEV$AGARIÂ,PACƵǦīDUjǔǦīDU ǽ",
    "jÊÈCǦīDU ǽjǔǦīDU ČpƋpAVAGRA!jÊPUSHPIKAj GAP FILL_kCARETkHEADSTROKEjÂĽǉMj JAşOMjÇYjûAYaKAYA",
    "H LI ŦjįjĤjĥjĴjŁjľjŉjŊjŋhýKAiÚiGAiĔhIËAj!hýZAiİi*iH*iNAiPAiąi=iDAiBAiRAiYAi~iWAiċi!iVAiCAh",
    "IÇhýOEiIiOOhI VOWEL UEpEpUpEEpOjTÙPLOPHUlC.YAp PLOPHUiǔWIiÂ,HYAaREJÎ:KAfGAfĔf*fDAfNAfPAfBA",
    "f=fCAfJAfİeËAe:RAf~fYAfWAf!fMBAfNGGAgDAgYJAeÇeûIfUfEfAIfOfAUfEUgAe CONSON$TÊNGpoRoHfǽ"]),
  (0xa95f, [
    "REJÎõŜÏaHÎUL CHOSEONG TIKEUT-MÑMvƥvŨvCÑCoRÑL-ǕsSSÎǕsTIKEUTsSSÎTIKEUTsMÑMsƥsSSÎƥsKAPYEĊƥsŨs",
    "CÑCsKHÑKHoMÑM-ǕsTIKEUTsŨoƥ-Ũ-THÑTHqKHÑKHqǸn,SÎŨ-ƥn IEŃ-RÑLsǸn,SÎCÑC-ǸqTHÑTHn PHÑPH-ǸoǸ-Ũn,",
    "SÎYEOR%Ǹ"]),
  (0xa980, [
    "JAV$ESEÊP$YÎGAhǔECAKhÊ~YARiWIGNY$hÇh:I KAWIjjIiUiPA C_EKiĔ <<Tn RASWADIiEhÇIh:OiKAk,ASAKk ",
    "MURDAiGAk MURDAiĔiCAk MURDAiJAiİ MURDAiJA =!PR$Aiİiƅj =!PR$AiŔj =!PR$AiNA MURDAi*j MURDAiD",
    "Ak =!PR$AiNAiPAk MURDAiBAk MURDAi=iYAiRAk AGŃi~iWAg^ƤA MURDAk=!PR$AjgE:!hǔECAK TELUhû*RŃiT",
    "OȇiWULUm MELIKiSUKUm M+DUTiT.ÉiDIRGA MUREiPEPETg^CONSON$TÊK_ETqP+GK.pǔAKRAhPÎKONhÃR_+GG$hÄ",
    "R_+GG$hPADA äAPm=DYAmLUHURmW%DUmPÎK>mLÉSAnŃSImADEGq ADEGmPISE<HhŏPADA PISE<H"]),
  (0xa9cf, ["JAV$ES^PÎRÎKEPhŦhįhĤhĥhĴhŁhľhŉhŊhŋ"]),
  (0xa9de, [
    "JAV$ES^PADA TIR* TUMETESmIS+-IS+aMY$=RËHÓŠiÔiJ!iNNAiB!fÂ,H$,AWf MODIFI_ËHÓREDUPLICìf:*I ~Á",
    "İlFAlGAlŠlJAm!lŔlǉlNNAf *I ~ÁŦlįlĤlĥlĴlŁlľlŉlŊlŋf:*I ~ÁĪlDAm!lBAm!"]),
  (0xaa00, [
    "ÔMÇc:IdUdEcÇIc:OdKAdÚdGAdŠdNGUEdĔdÔdCH!dJAe!dNHUEe!eHJAd*dċdDAe!dNUEeAdŔdPAePAdądBAe!dMUEd",
    "=dBBAdYAdRAd~dVAcËSAdAc:!cûAAdIeIdEIdUdOEedAIeUdUEc CONSON$TÊYAmRAm~mWA"]),
  (0xaa40, ["ÔM:ƻKeGeNGc CONSON$TÊƻNGc:ƻCHeTeNePeYeReLeSSc CONSON$TÊƻMnH"]),
  (0xaa50, ["ÔM ŦdįdĤdĥdĴdŁdľdŉdŊdŋ"]),
  (0xaa5c, [
    "ÔM PǷ,PIR.f DäAgÈDäAgǈáDäAaMY$=R:ÚMTI GAlCAlÔlJAm!lİlƅlǜlŔlǉlD!lNAk,Ak !lH!lFAf MODIFI_:ÚM",
    "TI REDUPLICìf:ÚMTI XAlZAlRAf LOGOGRAM ÚMTI OAYuQNuHMfŢAITÖEXC~=ĳkÍkČfÇITÖRAfÊPAO KAR+ TÍg*",
    "I ~ÁTÍ-2o5fËHW^PA~Ń ÔnĄa*I VIET:ėKOiŬKOiėKHOiŬKHOiėKHHOiŬKHHOiėGOiŬGOiėNGOiŬNGOiėCOiŬCOiėC",
    "HOiŬCHOiǹ,OiŬSOiėNYOiŬNYOiėDOiŬDOiėTOiŬTOiėTHOiŬTHOiėNOiŬNOiėBOiŬBOiėPOiŬPOiėPHOiŬPHOiėFOi",
    "ŬFOiėMOiŬMOiėYOiŬYOiėROiŬROiėLOiŬLOiėVOiŬVOiėHOiŬHOiėOiŬOh =I KÎiVOWEL AAoIoUEpoEoOi=I KHI",
    "TiVOWEL IAoUEApAoAUEpYo$oAMiTÙ=I EKnNU+GnTHOm,ONG"]),
  (0xaadb, [
    "*I VIETŢKONiNU+GhÒ,AMhŢHO HOIiKOI KOIaMEETEI =YEK:EmOmÔmİmƅmǜmŔmǉmNNAlË!mSAlûIImUUmAAInUnA",
    "Ul ëIKH$mAHÎ KHUDAMm$JIlƝREPETIĳÏl WORD REPETIĳÏlûȂl ǽ"]),
  (0xab01, ["ETHIOPICƝTTHUmIjǜAjTTHEEnmO"]),
  (0xab09, ["ETHIOPICƝDDHUmIjǉAjDDHEEnmO"]),
  (0xab11, ["ETHIOPICƝDZUlIlAAlEEmlO"]),
  (0xab20, ["ETHIOPICƝCCH!mHUnIm!AmHEEonO"]),
  (0xab28, ["ETHIOPICƝBBAlUlIlAAlEEmlO"]),
  (0xab30, [
    "ƨ;üRÀ.ąbƂ ȊSED-SCHWAb;ĜȖEcüRÀEcĂFLOURĆcL+IS FbŎǚG&ǊED-Ņb;ǍƖ~ZY,dĘȋƍdðǀcM&ǊED-ŅcN&ǊED-Ņc+G&",
    "ǊED-ŅcĜȖOf Đcġ O ĐcƖOEcŏO^ĐeĂǞƛe ġ-Oi ĐbŎTIRRôRb ūŤR&Ä<Gb;R ƴOUT Hä<cÈRcR&ǊED-ŅcÈR&ǊED-ŅbŎ",
    "ǚRe&ǀb;BASEǒESHcƁSǣÄ<GcUĎ&SǣÄ<GdIcŏUIcƁÃăcCHIf&ėÄǀhĒ,_IFcX&ėÄǀeƇÃ<GiÐėÄǀi&S_IFcY&SǣÄ<GaMOD",
    "IFIþƧ&ƖƧhūH+GiǍƖ~ZY,jðƍiƁÃăaƨŎAÚ Y>b;IOTIǻEcġ OEcUOcƖ.ąaǫ ūŤOMEGAaƨ;DZ DIGRč&ȁcTS DIGRč&ȁc",
    "ŏR&ðƍaMODIFIþūŏWg_:ÃTŀiÄTŀ"]),
  (0xab70, [
    "CH_OKEEƂh;EiIiOiUiViGAiKAiGEjIjOjUjVi!iHEjIjOjUjVi~i<iLIjOjUjVi=iMEjIjOjUiNAiHNAiNAHjEjIjO",
    "jUjViQUAkEkIkOkUkVhŎAiiEiIiOiUiVh;DAi*iDEiTEiDIiTIiDOjUjVj~iT~j<jLIkOkUkVjSAkEkIkOkUkViWAj",
    "EjIjOjUjViYAaMEETEI =YEK:KOKlËAMl:~ImMITmPAmNAmCHILmTILmKHOUmNGOUmTHOUmWAImYÎmHUKmUNmImąMm",
    ">IYAmGOKmJ!MmRAImBAmJILmDILmGHOUmDHOUmB!MmKOK ǄSUMm~I ǄSUMmMIT ǄSUMmPA ǄSUMmNA ǄSUMmTIL ǄS",
    "UMmNGOU ǄSUMmI ǄSUMlûONAPm%APm$APmY+APmSĊAPmUNAPmë%APmNŃl ëIKHEImLUM IYEKmAPUN IYEK"]),
  (0xabf0, ["MEETEI =YEK ŦmįmĤmĥmĴmŁmľmŉmŊmŋ"]),
  (0xd7b0, [
    "HÎUL JŃSEONG O-YEOpO-InYO-ArEqEOnU-YEOpI-InYU-AEqOnEU-AqEOrqOnI-YA-OrEqEOrpO-IpYOqUpInARAE",
    "A-AtE"]),
  (0xd7cb, [
    "HÎUL JONGSEONG NÑN-RÑLtCHÑCHo,SÎTIKEUTx-ƥo TIKEUT-ƥwŨx-ǕwCÑCxHÑCHwTHÑTHpRÑL-SSÎǕtǕ-Ǹo,SÎRÑ",
    "L-KHÑKHo RÑL-MÑM-Ǹtƥ-TIKEUTvPHÑPHtYESIEŃvOR%Ǹ-ǸpKAPYEĊRÑLpMÑM-NÑNtSSÎNÑNo,SÎMÑMo MÑM-ƥ-ŨtC",
    "ÑCpƥ-TIKEUTrRÑL-PHÑPHrMÑMo,SÎƥo ƥ-Ũ-TIKEUTrCÑCsHÑCHpŨ-MÑMrKAPYEĊƥo,SÎŨ-ǕtTIKEUTo Ũ-P$ŨrCÑC",
    "sHÑCHrTHÑTHrǸpP$Ũ-ƥtKAPYEĊƥpYESIEŃ-MÑMwǸpCÑC-ƥtSSÎƥo,SÎCÑCo PHÑPH-ŨvTHÑTH"]),
  (0xfb00, ["ƨßLIG>ƹFFiIiLiFIjLhȇ, ThST"]),
  (0xfb13, ["ARM+I$ßLIG>ƹM+ NOWpECHp%ImVEW NOWmM+ XEH"]),
  (0xfb1d, [
    "HEBREW:YOƱHIRIQg Ž JUDEO-SP$Ć VARIKAhLIG>ƹYIDDĆ YOD YOD PA*Hg:ǬIŲAY%hWID^ĖFlDĖTlHElKAFlóED",
    "lƻMEMlRESHl*VhǬIŲǳÂgËH%&SHşölşökDAGESHÐSHşösşög:ĖF&PA*HkQAěSk=PIQhBEǨDAGESHhGIMEǍDAGESHhDĖ",
    "ǨDAGESHhHĂ=PIQhVAV&DAGESHhZAY%&DAGESH"]),
  (0xfb38, ["HEBREW:TEǨDAGESHhYOƱDAGESHhƻKAF&DAGESHhKAF&DAGESHhóEƱDAGESH"]),
  (0xfb3e, ["HEBREW:MțDAGESH"]),
  (0xfb40, ["HEBREW:NUN&DAGESHgËAMEKÞDAGESH"]),
  (0xfb43, ["HEBREW:ƻPĂDAGESHhPĂDAGESH"]),
  (0xfb46, [
    "HEBREW:TSADI&DAGESHhQOF&DAGESHhRESÞDAGESHgËH%&DAGESHg:*V&DAGESHhVAV&HOóhBEǨRAFEhKAF&RAFEhP",
    "ĂRAFEg LIG>ƹĖF óEDaƏ:ĖF WAS~ ÝkêcBEEōfǪfŧfH ŘcPEōeǪeŧeH ŘcBEHEōgǪgŧgH ŘcTTEHEōhǪhŧhH ŘdEHE",
    "ōgǪgŧgH ŘdTEōfǪfŧfH ŘcVEōeǪeŧeH ŘcPEHEōgǪgŧgH ŘcDYEōdƩdYEŧfH ŘcNYEōdƩdYEŧfH ŘcTëōeǪeŧeH Řf",
    "EōgǪgŧgH ŘcŔHÆÝfêcDAHÆÝgêdUL ÝgêdDÆÝfêcJEōeǪcRREōfǪcKEHEōgǪgŧgH ŘcGAF ÝgêgĠgŘdUEōfǪfŧfH Řc",
    "NGOEōgǪgŧgH ŘdOÖGHUNNA ÝmêcRNOÖÝgêgĠgŘcHEÞYEH őÝkêeH GOÆÝjêjĠjŘgDOAÔSHME^ÝpêpĠpŘcYEHĎRE^Ýj",
    "êiĂ!MZA őÝpêbŢƲŒcȎcæǥdǅùcÿǥdǅùe÷ĶŒgùcŭǥdǅùcÈĀüĬcæǅƮÜYãhĬcǀbÒß*HãfĬbŢWAS~ã"]),
  (0xfbd3, [
    "Ə:NG ÝfêfĠfŘcU ÝeêcO^ÝeêcYU ÝfêcƁ!MZA őÝcŲÝdêcKIRGHIZ O^ÝmêkYU Ýnêc^ÝdêdĠdŘcUIGHUR KAZAKH ",
    "KIRGHIZ ƑĠzŘb LIG>ƹYEÞ!MZAã&ĖF ÝtêqA^ÝsêqWAW ÝuêqU ÝsêqO^ÝsêqYU Ýtêq^ÝrêrĠhUIGHUR KIRGHIZ ",
    "YEÞ!MZAã&ƑÝz!MZAã&Ƒêz!MZAã&ƑĠb:FARSI YEōiƩiYEŧkH Řb LIG>ƹYEÞ!MZAã&ůÝq!ōqèÝqƑÝqYEōhBEÞůÝk!ō",
    "kÚōkèÝkƑÝkYEōhTEÞůÝk!ōkÚōkèÝkƑÝkYEōiHEÞůÝlèÝlƑÝlYEōhJEț!ōkèÝh!ÞůÝjèÝhÚÞůÝj!ōjèÝhSE+&ůÝl!ōl",
    "ÚōlèÝiAƱ!ōkèÝhDAƱůÝk!ōkÚōkèÝh*Þ!ōjèÝhZAÞèÝhA%&ůÝkèÝhŠ%&ůÝkèÝhFEÞůÝk!ōkÚōkèÝkƑÝkYEōhQAF&!ōl",
    "èÝlƑÝlYEōhKAF&ĖF ÝlůÝl!ōlÚōló ÝlèÝlƑÝlYEōhó&ůÝj!ōjÚōjèÝjƑÝjYEōhMEțůÝk!ōkÚōkèÝkƑÝkYEōhNOƫůÝ",
    "k!ōkÚōkèÝkƑÝkYEōhHEÞůÝkèÝkƑÝkYEōhYEÞůÝk!ōkÚōkèÝkƑÝkYEōhċǍSǱSǚĖF ÝhREÞSǱSǚĖF ÝhƑȗǱSǚĖF ÝhS!",
    "Ŕ&DAMěÓÝlKASR>ÓÝlF>! ÝlDAM= ÝlKASRA ÝlSǱSǚĖF ÝhYEÞ!MZAã&REǪqZAşêqèêqNOÖêqƑêqƩhBEÞREǪkZAşêk",
    "èêkNOÖêkƑêkƩhTEÞREǪkZAşêkèêkNOÖêkƑêkƩiHEÞREǪlZAşêlèêlNOÖêlƑêlƩhFEÞƑêkƩhQAF&ƑêlƩhKAF&ĖF êló",
    " êlèêlƑêlƩhó&èêjƑêjƩhMEțĖF êkèêhNOƫREǪkZAşêkèêkNOÖêkƑêkƩhƑȗǱSǚĖF êhYEÞREǪkZAşêkèêkNOÖêkƑêk",
    "Ʃk!MZAã&ůĠq!ŧqÚŧqèĠqHEŧhBEÞůĠk!ŧkÚŧkèĠkHEŧhTEÞůĠk!ŧkÚŧkèĠkHEŧiHEÞèĠhJEț!ŧkèĠh!ÞůĠjèĠhÚÞůĠj",
    "èĠhSE+&ůĠl!ŧlÚŧlèĠiAƱ!ŧkÚŧkèĠhDAƱůĠk!ŧkÚŧkèĠh*Þ!ŧhZAÞèĠhA%&ůĠkèĠhŠ%&ůĠkèĠhFEÞůĠk!ŧkÚŧkèĠhQ",
    "AF&!ŧlèĠhKAF&ůĠl!ŧlÚŧló ĠlèĠhó&ůĠj!ŧjÚŧjèĠjHEŧhMEțůĠk!ŧkÚŧkèĠhNOƫůĠk!ŧkÚŧkèĠkHEŧhHEÞůĠkèĠk",
    "SǱSǚĖF ĠhYEÞůĠk!ŧkÚŧkèĠkHEŧk!MZAã&èŘqHEH ŘhBEÞèŘkHEH ŘhTEÞèŘkHEH ŘiHEÞèŘlHEH ŘhSE+&èŘlHEH ",
    "ŘgUREŪ+&èŘmHEH ŘgƹKAF&ó ŘlèŘhó&èŘhNOƫèŘkHEH ŘhYEÞèŘkHEH ŘhS!Ŕ&F>! ŘlDAM= ŘlKASRA Řh*ÞƑÝjYE",
    "ōhA%&ƑÝkYEōhŠ%&ƑÝkYEōhSE+&ƑÝlYEōgUREŪ+&ƑÝmYEōgƹ!ÞƑÝjYEōhJEțƑÝkYEōhÚÞƑÝjYEōhSAƱƑÝkYEōhDAƱƑÝ",
    "kYEōgUREŪ+&ůÝm!ōmÚōmèÝmREōgƹSE+&REōiAƱREōhDAƱREōh*ÞƑêjƩhA%&ƑêkƩhŠ%&ƑêkƩhSE+&ƑêlƩgUREŪ+&Ƒêm",
    "Ʃgƹ!ÞƑêjƩhJEțƑêkƩhÚÞƑêjƩhSAƱƑêkƩhDAƱƑêkƩgUREŪ+&ůêm!ǪmÚǪmèêmREǪgƹSE+&REǪiAƱREǪhDAƱREǪgUREŪ+",
    "&ůĠm!ŧmÚŧmèĠgƹSE+&HEŧgUREŪ+&HEŧgƹ*ÞèĠhSE+&ůŘl!H ŘlÚH ŘgUREŪ+&ůŘm!H ŘmÚH Řgƹ*ÞèŘhZAÞèŘhĖF&F",
    ">H>ÓêpÝaORN>^ÃǏSISfÄǏSISaƏ LIG>ƹRAHI=HU .~AHjDI .~AHU $Ht!AtHUMv=AvNNAhS.~ĪAHU A~YHI WA-A.",
    "IHhA~YHI AS-SA~AMmM AS-SA~AMm=A AS-SA~AMm AS-SA~>U WAS-SA~AMhQUDDISAĽRRAHhS.~ĪHU A~YHI WAA",
    ".IHE^WA-S.óhA~Y!A AS-SA~AMh*BAARAKA WA-*AA~AhRAHI=HUM .~AHhTEÞJEțèĠk!ÞůênĠmèĠkÚÞèĠkMEțůĠn!",
    "ŧnÚŧhJEțMEț!Ǫoŧh!ÞMEțƩmƑêhSE+&!ÞůĠlJEț!ŧoƑêlMEț!ǪpŧoůĠoèêpĠiAƱ!Þ!ǪnŧkMEțèêgUREŪ+&!ÞèêpĠmJE",
    "țƩmMEțÚǪqŧpèêqĠgƹDAƱ!ÞƑêkÚÞèênĠh*ÞMEț!ǪnŧmèĠmƩhA%&JEțèêkMEțèêoĠnƑêhŠ%&MEțèênƩnƑêhFEÞÚÞèênĠ",
    "hQAF&MEț!Ǫoèêhó&!ÞèêlƩlƑêjJEțůĠnêjÚÞèêmĠjMEț!ǪnŧhMEț!ÞůĠmèĠmƩkJEț!ŧnèĠkÚÞůĠmèĠ"]),
  (0xfd92, [
    "Ə LIG>ƹMEțJEțÚŧhHEÞMEțůĠnèĠhNOƫ!ÞèĠmƑêkJEțèêoĠnƑêkMEțƩnƑêhYEÞMEțèêoĠhBEÞÚÞƩhTEÞJEțƩnƑêkÚÞƩ",
    "mƑêkMEțƩnƑêhJEțMEțƩk!ÞƑêkMEțƑêhSE+&ÚÞƑêiAƱ!ÞƩgUREŪ+&!ÞƩgƹDAƱ!ÞƩhó&JEțƩjMEțƩhYEÞ!ÞƩkJEțƩkME",
    "țƩhMEțMEțƩhQAF&MEțƩhNOƫ!ÞƩhQAF&MEț!ŧhó&!ÞèĠhA%&MEțƩhKAF&MEțƩhNOƫJEț!ŧhMEțÚÞƩhó&JEțèĠhKAF&M",
    "Ețèêhó&JEțèêhNOƫJEț!ǪhJEț!ÞƩh!ÞJEțƩhMEțJEțƩhFEÞMEțƩhBEÞ!ÞƩhKAF&MEțèĠhA%&JEțèĠhSAƱMEțèĠiE+&",
    "ÚÞƩhNOƫJEțƩ"]),
  (0xfdcf, ["Ə LIG>ƹSA~AMUHU A~YNAA"]),
  (0xfdf0, [
    "Ə LIG>ƹS.~ USÀAS KOR$IC,ńÊÝhQA~ USÀAS KOR$IC,ńÊÝh.~ōhAKü ÝhMO!M=D ÝhSAó ÝhRASOUL ÝhA~YH^Ýh",
    "WAS.ó ÝhS.~ ÝkĪHOU A~YH^WAS.óhJ.~J..OUHOUaRI.ÂaƏ LIG>ƹBISMIĪH AR-RAHMÓAR-RAHEEMgUREƒ!$AHU ",
    "WA *AA~AgƹAZZA WA JÜ"]),
  (0xfe10, [
    "PRES+*ĳ ƚ ĝ Āđ=nIDEOGRčICǋ=uÕǠnCǤnSEMICǤnEXCóŗnQUESĳÏnÃ×L+ňƉïnÄ×L+ňƉBRAKCETnƟELLIPSIS"]),
  (0xfe20, [
    "đīÁLIG>ƹÃȄiÄȄdÈȃÃȄfÄȄdź ÃȄfÄȄcƵONJO%ÁźcÁLIG>ƹÃȄĬiÄȄĬdȃÃȄĬeÄȄĬdź ÃȄĬfÄȄĬcƵONJO%ÁźĬdYRILLÕTI",
    "TLO ÃȄpÄȄaPRES+*ĳ ƚ ĝ ĀæƲ<AD_nEM DASHn+ DASHnėķnWAVY ėķnÃǏSISnÄǏSISnÃƶY ïnÄƶY ïnÃTORTOISEŪ",
    "LL ïnÄTORTOISEŪLL ïnÃîL+ňƉïnÄîL+ňƉïnÃÈƯïnÄÈƯïnÃƯïnÄƯïnÃCORNþïnÄCORNþïnÃ×CORNþïnÄ×CORNþïaSE",
    "SAM^öaƸõSAM^öaPRES+*ĳ ƚ ĝ ĀĒǓïnàǓïaDASHÀƃķañREǒƃķaWAVY ƃķaÈWAVY ƃķaDASHÀėķañREǒėķaWAVY ėķa",
    "SMÜǋ=d IDEOGRčICǋ=eǠ"]),
  (0xfe54, [
    "SMÜõMICǤd CǤeQUESĳÏeEXCóŗfM DASHeÃǏSISeÄǏSISeÃƶY ïeÄƶY ïeÃTORTOISEŪLL ïeÄTORTOISEŪLL ïeNƿÂ",
    "eAMĢSäeǙeǳÂeHYPH+-M%USeƠÂeƣÂeƽƪ"]),
  (0xfe68, ["SMÜ ȊSƭOLIDUSeDOĪRÂeĢñÂdǋM_CIÆ>"]),
  (0xfe70, ["Ə F>H>ÓÝcT>WEEǍF>H>$ãcDAMěÓÝcŅ FRAGMâcKASR>ÓÝ"]),
  (0xfe76, [
    "Ə F>! ÝgŘcDAM= ÝhŘcKASRA ÝiŘbĄŔ ÝeŘb,UKUN ÝhŘb:!MZA ÝcĖF&=Ŕ őÝjêf!MZA őÝlêcWAW&!MZA őÝmêcĖ",
    "F&!MZAĬ ÝlêcYEÞ!MZA őÝlêlĠlŘcĖF ÝfêcBEōeǪeŧeH ŘcTEH =RBU* ÝmêeōeǪeŧeH ŘdHEōfǪfŧfH ŘcůÝdêdĠ",
    "dŘc!ōdǪdŧdH ŘcÚōdǪdŧdH ŘcDÆÝeêcTHÆÝfêcREōeǪcZAşÝfêbËE+ ÝfêfĠfŘcHE+ ÝgêgĠgŘcAD ÝfêfĠfŘb:DAD",
    " ÝgêgĠgŘc*ōdǪdŧdH ŘcZAōeǪeŧeH ŘbÇşÝdêdĠdŘb:ŠşÝeêeĠeŘcFEōeǪeŧeH ŘcQAF ÝgêgĠgŘcKAF ÝgêgĠgŘcó",
    " ÝeêeĠeŘcèÝdêdĠdŘcNOÖÝfêfĠfŘcHEōeǪeŧeH ŘcWAW ÝgêcƑÝdêcYEōcƩcYEŧeH Řb LIG>ƹó&ĖF&=Ŕ őÝqêm!MZ",
    "A őÝsêqĬ Ýsêl Ýmê"]),
  (0xfeff, ["Z_O WIDTH NO-BREAK,PACE"]),
  (0xff01, [
    "FULLWIDTH EXCóŗkQUOTŗkNƿÂkDOĪRÂkĢñÂkAMĢSälPOSTROPHEkÃǏSISkÄǏSISkǙkǳÂjǋ=j HYPH+-M%USkǠj,OLI",
    "DUSj ŦkįkĤkĥkĴkŁkľkŉkŊkŋkCǤjõMICǤj ƠÂkƽƪkƣÂkQUESĳÏjǋM_CIÆ>j ƨƌl|BmCmDmEmFmGmHmImJmKmLmMmNm",
    "OmPmQmRlŷl|TmUmVmWmXmYmZkĒǓïkȊSƭOLIDUSkàǓïkƷACñkėķkũ ACñkƨƂl;BmCmDmEmFmGmHmImJmKmLmMmNmOmP",
    "mQmRlŎl;TmUmVmWmXmYmZkÃƶY ïkĀķkÄƶY ïkƍkÃ×ǏSISkÄ×ǏSISaȄWIDTH IDEOGRčÕǠhÃCORNþïhÄCORNþïhIDEO",
    "GRčICǋ=hKA*K$Aȋön:WOlŝūAnInUnEnOnYAoUoOnTUl$A-HIRAGŝĭȇED,ĊDÏnÇn:IoUoEoOoKApIpUpEpOlŝƤAnInU",
    "nEnOl$A:*oTIpUpEpOoNApIpUpEpOo!oHIpUpEpOo=oMIpUpEpOoYApUpOoRApIpUpEpOoWAoNlŝVOICED,ĊDÏl$Aõ",
    "MI-VOICED,ĊDÏhHÎUL FILL_l:ǕlËSÎǕl:Ǖ-ŨmNÑNp-CÑCqǸmTIKEUTlËSÎTIKEUTl:RÑLp-ǕqMÑMqƥqŨqTHÑTHqPH",
    "ÑPHqǸmMÑMmƥlËSÎƥl:ƥ-ŨmŨlËSÎŨl:IEŃmCÑClËSÎCÑCl:CHÑCHmKHÑKHmTHÑTHmPHÑPHmǸ"]),
  (0xffc2, ["ȄWIDTH HÎULÇmEl:YAoEmEOn"]),
  (0xffca, ["ȄWIDTH HÎUL:YEOomOmWAoEmOE"]),
  (0xffd2, ["ȄWIDTH HÎUL:YOmUmWEOonImYU"]),
  (0xffda, ["ȄWIDTH HÎUL:EUmYImI"]),
  (0xffe0, ["FULLWIDTH ñÂkPĊDÂkNOTÂkźkBROK+ĎkY+ÂkWONÂ"]),
  (0xffe8, ["ȄWIDTH ƚS ŮƮ.híÅhĻÅhŐhĶÅgȏģg ƸȈ"]),
  (0xfff9, ["%ÛķAR $NO*ĳ $CĞlõĚ>ORl ÛM%>ORaOBJECT REP~CEMǲÔRACÛaREP~CEMǲÔRACÛ"])]

end Monomorph.Text.CharacterName
