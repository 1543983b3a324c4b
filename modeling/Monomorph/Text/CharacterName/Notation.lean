/-!
Shortened names of the characters above U+1CFFF: music, mathematics, sign writing, games,
pictographs and tags.
-/

namespace Monomorph.Text.CharacterName

/-- Runs of these characters: the first one, and the text of their shortened names in pieces. -/
def notationRuns : List (Nat × List String) := [
  (0x1d000, [
    "BYZ$TǴMUSIC.ŢPSILInDASEIAnǰM+InOXEIA EKFONITIKONtDIPLInVAREIA EKFONITIKONuDIPLInK>HISTImÒ,",
    "YRěIKImŢĚAKLITIKInYPOKRISISw DIPLInKRE=STInAPESO EKFONITIKONnEXO EKFONITIKONnTE<IAnKâI=*nA",
    "POSTROFOSx DIPLImÒ,YNEV=mŢTHI*nOLIGÖARÔŖnGORGÖARÔŖnPSIǄnÔMIǄnV>HYnISÖARÔŖnKâI= ARÔŖr* ARÔŖ",
    "mÒ,AXI=*mŢĚICHONmÒ,*VROS APODEXIAmŢOXEIAI ARÔŖnVAREIAI ARÔŖnAPOD_= ARÔŖqTHE=nK~S=nREV=nPIA",
    "S= ARÔŖnT%AG=n$>RICHIS=mÒõIS=n,YNAG= ARÔŖuME*,*VROUmŢOYR$IS= ARÔŖnTHE=n<MOInDYOnTRIAoESS_A",
    "nKR>I=*nAPESO EXO NEOnFTĞA ARÔŖnIMIFTĞAnTROMIKÖARÔŖnKA*VA TROMIKONnPE~STONoSIFISTONnKONTEV",
    "=nCĞEV= ARÔŖnRAPIS=nĚAKĖS= ARÔŖqLITIKI ARÔŖnIÔD%nN$AnPE*S=nKONTEV= ÜOnTROMIKÖÜOmÒřRAGGIS=*",
    "mŢGRONTHIS=*nISÖNEOnOLIGÖNEOoXEIA NEOnPE*STInKOUFIS=nPE*STOKOUFIS=nKR>IMOKOUFIS=nPE~STÖNEO",
    "nKâI=* NEO $Or NEO $OnYPSILInAPOSTROFOS NEOwI,YNDESMOS NEOnYPORROInKR>IMOYPORROONnE~FRONnÔ",
    "MILInMIKRÖISONnVAREIA NEOnPIAS= NEOoSIFISTÖNEOnO=Ǆn$TIK+O=nLYGIS=nĚAKLITIKI NEOqĖS= NEOnEÛ",
    "ÖĚAKĖS=nKYLIS=n$TIK+OKYLIS=nTROMIKÖNEOnEKSTREPTONmÒ,YNAG= NEOpR=mŢCĞEV= NEOnEPEG_=mÒõIS= N",
    "EOmŢXIRÖK~S=nTROMIKOPSIFISTONnPSIFISTOLYGIS=nTROMIKOLYGIS=uĚAKĖS=nPSIFISTOĚAKĖS=nTROMIKOSY",
    "NAG=nPSIFISTOSYNAG=nGORGOSYNTHETONnARGOSYNTHETONnEÛÖARGOSYNTHETONnOYR$IS= NEOnTHEěISMOS ES",
    "OyXOq= APLĊqS KAI APOTHESnKA*VAS=n+DOFONONnYF+ K>Or$OmÒ,*VROSmŢK~S= $OnDIPLI ARÔŖnKR>I= AR",
    "ÔŖtÜOtNEOnAPOD_= NEOpLInDIPLInǈLInTETRAPLInKORONISn<IM= +OS CHRONOUsDYO CHRONONsTRIÖCHRONO",
    "NtESSARÖCHRONONsIMISEOS CHRONOUnGORGÖNEO $OsĚESTIGM+ÖARISÛAz+ÖDEXIAnDIGORGONtÖĚESTIGM+ÖARI",
    "SÛA K>OzGM+ÖARISÛA $OzGM+ÖDEXIAnTRIGORGONnARGONnIMIDIARGONnDIARGONnAGOGI POLI ARGItARGOÛIw",
    "ItMETRIAvSItGORGIxOÛItPOLI GORGIn=RTYRIA ĭTOS ICHOSvÜI ĭTOS ICHOSvDEYÛOS ICHOSvÜI DEYÛOS I",
    "CHOSvTRITOS ICHOSyFONIASwE*RTOS ICHOSzTOS <GETOS ICHOSv<GETOS ICHOSvP~GIOS ICHOSnISAKIA TE",
    "LOUS ICHIěOSnAPOSTROFOI TELOUS ICHIěOSnF$_OSIS TETRAFONIASvMONOFONIASvDIFONIASn=RTYRIA VAR",
    "YS ICHOSvĭTOVARYS ICHOSvP~GIOS TE*RTOS ICHOSnGORTHMIKÖN APLĊyDIPLĊn+ARXIS KAI FTĞA VOUnIMI",
    "FONONrTĞONnFTĞA ARÔIÖDEYÛOU ICHOUsDI>ONIKI PAzI N$AsNAOS ICHOSsDI>ONIKI DIr,KLIRÖDI>ONÖDIr",
    " DI>ONIKI KEzI ZOzI NI K>OzI NI $Os=~KÖCHRO= DIFONIASzO= MONOFONIASoHTORA,KLIRÖCHRO= VASIS",
    "oTĞA,KLIRÖCHRO=,YNAFIr N+$OnCHROA ZYGOStKLITONs,P>HInFTĞA I YFESIS TE*RTIMORŖs+ARMONIOS $T",
    "IFONIAnYFESIS TRITIMORŖnDIESIS TRITIMORŖvE*RTIMORŖuAPLI DYO DODEKA*uMONOGRAMMOS TESS_A DOD",
    "EKA*uDIGRAMMOS EX DODEKA*uTRIGRAMMOS OKĨDODEKA*nYFESIS APLI DYO DODEKA*uMONOGRAMMOS TESS_A",
    " DODEKA*uDIGRAMMOS EX DODEKA*uTRIGRAMMOS OKĨDODEKA*nG+IKI DIESIStYFESISnDIASTOLI APLI MIKR",
    "IzI MEG.IwDIPLIwTHESEOSmÒĽM$SIS THESEOSzOS DISIMOUzOS TRISIMOUzOS TETRASIMOUuARSEOSzS DISI",
    "MOUzS TRISIMOUzS TETRASIMOUmŢDIGRAM= GGpFTOGGOS OUmÒřIG=mŢARKTIKO PAvVOUvGAvDIvKEvZOvNInKâ",
    "I=* NEO MESOr NEO MESOr* NEO K>Or NEO K>Oo~S= K>OnGORGÖNEO K>O"]),
  (0x1d100, [
    "MUSIC.Òž<ĎķgŢĘĎķhƻüķhȊS^ƻüķhDASHEDĎķgÒ,ǣüķgŢÃREPE>ÂhÄREPE>ÂhREPE> öShD.õGNOiA CAPOgÒõGNOgŢ",
    "CODAhREPE>ÀFIGURE-1u2u3hF_=*lĬhBRE>HÏhCAESURAhBRACEhïhÍ-ķ,*FFhČ-ķ,*FFhƋ-ķ,*FFhƀ-ķ,*FFhǑ-ķ,",
    "*FFgÒż-ķ,*FFjSTŻFRETBOŞgŢƀ-STŻFRETBOŞhG C<Fm OƅVA .*sBASSAhC C<FhF C<Fm OƅVA .*sBASSAhDRUM",
    " C<F-1q2"]),
  (0x1d129, [
    "MUSIC.ŢMULTIPáMEASƹRESThĘĄRPhÈFL>hFL> UPlƈhN>URÆUPmƈgÒĄRP UPlƈgŢŕơTÍĄRPkÙFL>gÒǋMÖȕgŢCUT ȕh",
    "OƅVA .*mBASSAhQU%DICESI= .*sBASSAhMULTI RESThWHOáRESThāRESThŕơRESThĈH RESTgÒżƎTH RESTgŢŹTY",
    "-SECOND RESTgÒżTY-ƀTH RESTgŢÙç ǝ-ĈH RESThX NOTEHEADhĉNOTEHEADhűX NOTEHEADgÒǓNOTEHEAD ƸqȏgŢ",
    "ĕ NOTEHEAD ôƸsUPȏsÃƸsĒȏsÄƸsàȏsćƸsƈȏsôÄƸtàȏhMOÖNOTEHEAD Ƹsȏhĕ-RĊD NOTEHEAD ćƸwƈȏhǏSIS NOTEH",
    "EADhVOID NOTEHEADhNOTEHEADȏiULL NOTEHEADhCLUSơNOTEHEAD ƸuȏhƧhWHOáNOTEhāNOTEhŕơNOTEhĈH NOTE",
    "gÒżƎTH NOTEgŢŹTY-SECOND NOTEgÒżTY-ƀTH NOTEgŢÙç ǝ-ĈH NOTEgÒǋīÉřEMk,PRECHGESÎřEMjÁTREMOLO-1s",
    "2s3gŢFÉ_ÀTREMOLO-1t2t3gÒǋīÁAUGM+*ĳ ökF~G-1o2o3o4o5gŢBEGşBEAMh+D BEAMhBEGşTIEh+D TIEhBEG%,L",
    "URh+D,LURhBEGşPHRASEh+D PHRASEgÒǋīÁACñjÉ,*CC>OkųUTOk,*CC>ISSIMOjÁ=RC>Op-S*CC>OkACñ-S*CC>Ok",
    "LOUREgŢARPEGGIAĨUPqƈgÒǋīÁDOITkRIPkFLIPjÉ,MEARjÁB+DkÈTONGUEkǈáTONGUEgŢR%ĝZäOgÒƒITOgŢZhPI$Oh",
    "MEZZOhĝTEhCRESC+DOhDECRESC+DOhGRAC^NOTƭ~SHp^NO,~SHhTRiURNhƖTURNhTURN,~SHl UPhƺȆ-1k2k3k4k5k",
    "6k7k8k9k10l1h!UPTSTIMMEhNEB+STIMMEh+D OFřIMMEhDEGREƭ~SHgÒǋīÁćBOWkôBOWk!RMONICjÉ,NAP PIZZIC",
    ">OgŢPED.ÏkÆUPÏhāPED.ÏhGLISSäO UPpƈgÒ&FÉ_NAILSgŢDAMPl Üh=XI=hȇAhBREVISgÒõMIBREVIS ƸqȏgŢM%I=",
    "lȏgÒõMIM%I= ƸoȏgŢFUSA ƸlȏhȇA ĢFEC* RESTkIMĢFEC* RESThBREVIS RESTgÒõMIBREVIS RESTgŢM%I= RES",
    "TgÒõMIM%I= RESTgŢTEMPUS ĢFECTUM CUM ĭ~ĳ^ĢFEC*z ĭ~ĳ^IMĢFEC*z ĭ~ĳ^ĢFEC* DIM%Uĳ-1oIMĢFECTUM C",
    "UM ĭ~ĳ^ĢFEC*zUM ĭ~ĳ^IMĢFEC*zUM ĭ~ĳ^IMĢFEC* DIM%Uĳ-1zUM ĭ~ĳ^IMĢFEC* DIM%Uĳ-2zUM ĭ~ĳ^IMĢFEC*",
    " DIM%Uĳ-3hCROIXhGREGORIÓC C<FpF C<FgÒǓBgŢVIRGAhPOD>UShCLIVISgÒ,CäICUSgŢCLI=CUShTORCULUShPO",
    "RRECTUSq F<XUSgÒ,CäICUS F<XUSgŢTORCULUS RESUP%UShPESƒPUNCTIShKIEVÓC C<Fm+D ØPIECEmƻNOTEmRE",
    "CIT>IVEÏmWHOáNOTEmāNOTEmŕơNOTEřEM ƈwUPmĈH NOTEřEM ƈxUPmFL>ÂgÒ,ORIgŢKORON"]),
  (0x1d200, [
    "ǫ VOCÆNO*ĳÒ-1m2m3m4m5m6m7m8m9m10n1lŌl-13n4n5n6n7n8n9m20n1n2n3n4m50n1n2n3n4c%STRUMâÆNO*ĳÒ-1",
    "q2q4q5q7q8q11pŌp-13r4r7r8r9q23r4r5r6r7r9q30r2r6r7r8r9q40r2r3r5r7r8r9q50r1r2r3r4ađīÁǫ MUSǃT",
    "RISEMEkETRASEMEjP+*SEMEaǫ MUSǃ<IM="]),
  (0x1d2e0, ["=YÓNUM_ÆZ_OiÍiČiƋiƀiǑh.żiğhÆĈiŶh.ųhÆE<V+iTWELVEiŹƎiƀƎiFIFƎh.żƎiğƎhÆĈE+iŶƎ"]),
  (0x1d300, [
    "MONOGRAM ĝ EARTHaDIGRAM ĝ HEAV+LY EARTHkUMÓEARTHjEARTHLY HEAV+sUM$oaTETRAGRAM ĝ ñREmFULLȈm",
    "MIREDlĎRI_l KEEPÉœmCONTRARIETYmASñmOPPOSIĳmBR$CHÁOUTmDEFECTIV+EưOR DISTORĳnIŵG+CEmYOUTHFUL",
    "NESSm%CREASEmP+ETRìmREACHmCON*CTmHOLDÁBŀmWAITÉmFOLǹÉmADV$CEmRE<ASEoSIST$CEmEASEmJOYmCONĮĳm",
    "+DEAVOURmDUTIESmCHÎEmDECISIV+ESSmBıRESOLUĳmPŀÉm<GŖmCLOS+ESSmK%SHIPmG>HEǀlřR+GTHl PURITYmFU",
    "LLNESSmRESID+CEm~W OR MODELmRESPONSEmGOÁĨMEETm+CĊÛSlřOVEl GRE>NESSm+ŚMâmP>ÛNmRITU.mFǘmVAST",
    "NEưOR WASTÉmCONST$CYmMEASUREmEÛNITYmUNITYmDIM%ĆMâmCLOSÀMOUTHmGUŞEDNESSn>HEŻ%m=SSÉmACCUMU~ĳ",
    "mEMBELLĆMâmDOUBTmW>CHl,%KÉl %N_mDEĚTUREnARK+ÉnIMMÉmEX!USĳlõŵ$CEl,ńPAGEl HŞNESSlǋP<ĳl CLOSU",
    "REmFAILUREmAGGRAVìlǋPLI$CEl ÖTH^ŵGEmDIFFICULTIESm~BOUǀmFOSTEǀ"]),
  (0x1d360, [
    "CĊTÁROD UNIT įnĤnĥnĴnŁnľnŉnŊnŋhųS įkĤkĥkĴkŁkľkŉkŊkŋaIDEOGRčÕTÜYÏ ÍnČnƋnƀnǑaTÜYÏ ÍfǑ"]),
  (0x1d400, [
    "ěƢBıŤAfBfCfDfEfFfGfHfIfJfKfLfMfNfOfPfQfRfSfTfUfVfWfXfYfZdOLDßAhBhChDhEhFhGhHhIhJhKhLhMhNhO",
    "hPhQhRgœ,gßThUhVhWhXhYhZcIT.ICǮAiBiCiDiEiFiGiHiIiJiKiLiMiNiOiPiQiRiSiTiUiViWiXiYiZhßAiBiCi",
    "DiEiFiG"]),
  (0x1d456, [
    "ěƢIT.ICßIiJiKiLiMiNiOiPiQiRhœ,hßTiUiViWiXiYiZcBıIT.ICǮAkBkCkDkEkFkGkHkIkJkKkLkMkNkOkPkQkRk",
    "SkTkUkVkWkXkYkZjßAkBkCkDkEkFkGkHkIkJkKkLkMkNkOkPkQkRjœ,jßTkUkVkWkXkYkZcSǚŤA"]),
  (0x1d49e, ["ěƢSǚŤCfD"]),
  (0x1d4a2, ["ěƢSǚŤG"]),
  (0x1d4a5, ["ěƢSǚŤJfK"]),
  (0x1d4a9, ["ěƢSǚŤNfOfPfQ"]),
  (0x1d4ae, ["ěƢSǚŤSfTfUfVfWfXfYfZdCRIPTßAjBjCjD"]),
  (0x1d4bb, ["ěƢSCRIPTßF"]),
  (0x1d4bd, ["ěƢSCRIPTßHjIjJjKjLjMjN"]),
  (0x1d4c5, [
    "ěƢSCRIPTßPjQjRdǚSMÜ,dCRIPTßTjUjVjWjXjYjZcBıSǚŤAhBhChDhEhFhGhHhIhJhKhLhMhNhOhPhQhRhShThUhVh",
    "WhXhYhZfCRIPTßAlBlClDlElFlGlHlIlJlKlLlMlNlOlPlQlRfǚSMÜ,fCRIPTßTlUlVlWlXlYlZcFRAKTURǮAkB"]),
  (0x1d507, ["ěƢFRAKTURǮDkEkFkG"]),
  (0x1d50d, ["ěƢFRAKTURǮJkKkLkMkNkOkPkQ"]),
  (0x1d516, ["ěƢFRAKTURǮSkTkUkVkWkXkY"]),
  (0x1d51e, ["ěƢFRAKTURßAkBkCkDkEkFkGkHkIkJkKkLkMkNkOkPkQkRjœ,jßTkUkVkWkXkYkZcĘ-STRUCKǮAlB"]),
  (0x1d53b, ["ěƢĘ-STRUCKǮDlElFlG"]),
  (0x1d540, ["ěƢĘ-STRUCKǮIlJlKlLlM"]),
  (0x1d546, ["ěƢĘ-STRUCKǮO"]),
  (0x1d54a, ["ěƢĘ-STRUCKǮSlTlUlVlWlXlY"]),
  (0x1d552, [
    "ěƢĘ-STRUCKßAlBlClDlElFlGlHlIlJlKlLlMlNlOlPlQlRkœ,kßTlUlVlWlXlYlZcBıFRAKTURǮAmBmCmDmEmFmGmH",
    "mImJmKmLmMmNmOmPmQmRmSmTmUmVmWmXmYmZlßAmBmCmDmEmFmGmHmImJmKmLmMmNmOmPmQmRlœ,lßTmUmVmWmXmYm",
    "ZcS$S-S_IFǮAlBlClDlElFlGlHlIlJlKlLlMlNlOlPlQlRlSlTlUlVlWlXlYlZkßAlBlClDlElFlGlHlIlJlKlLlMl",
    "NlOlPlQlRkœ,kßTlUlVlWlXlYlZk BıŤAoBoCoDoEoFoGoHoIoJoKoLoMoNoOoPoQoRoSoToUoVoWoXoYoZmOLDßAq",
    "BqCqDqEqFqGqHqIqJqKqLqMqNqOqPqQqRpœ,pßTqUqVqWqXqYqZlIT.ICǮArBrCrDrErFrGrHrIrJrKrLrMrNrOrPr",
    "QrRrSrTrUrVrWrXrYrZqßArBrCrDrErFrGrHrIrJrKrLrMrNrOrPrQrRqœ,qßTrUrVrWrXrYrZlBıIT.ICǮAtBtCtD",
    "tEtFtGtHtItJtKtLtMtNtOtPtQtRtStTtUtVtWtXtYtZsßAtBtCtDtEtFtGtHtItJtKtLtMtNtOtPtQtRsœ,sßTtUt",
    "VtWtXtYtZcMONOSPACEǮAmBmCmDmEmFmGmHmImJmKmLmMmNmOmPmQmRmSmTmUmVmWmXmYmZlßAmBmCmDmEmFmGmHmI",
    "mJmKmLmMmNmOmPmQmRlœ,lßTmUmVmWmXmYmZcIT.ICßö<ưIlJ"]),
  (0x1d6a8, [
    "ěƢBıŤ.ąfBE*fGAM=fDEL*fEPSIǄfZE*fE*fTHE*fIO*fKAPPAfóDAfMUfNUfXIfOMICRONfPIfRHOfTHE*ÒfSIG=f*",
    "UfUPSIǄfPHIfCHIfPSIfOMEGAeNAB~dOLDß.ąhBE*hGAM=hDEL*hEPSIǄhZE*hE*hTHE*hIO*hKAPPAhóDAhMUhNUh",
    "XIhOMICRONhPIhRHOhƻSIG=gœĽG=gß*UhUPSIǄhPHIhCHIhPSIhOMEGAdıĚTIÆDIFF_âI.eEPSIǄÒeTHE*ÒeKAPPAÒ",
    "ePHIÒeRHOÒePIÒcIT.ICǮ.ąiBE*iGAM=iDEL*iEPSIǄiZE*iE*iTHE*iIO*iKAPPAióDAiMUiNUiXIiOMICRONiPIi",
    "RHOiTHE*ÒiSIG=i*UiUPSIǄiPHIiCHIiPSIiOMEGAfÕNAB~fICß.ąiBE*iGAM=iDEL*iEPSIǄiZE*iE*iTHE*iIO*i",
    "KAPPAióDAiMUiNUiXIiOMICRONiPIiRHOiƻSIG=hœĽG=hß*UiUPSIǄiPHIiCHIiPSIiOMEGAfÕĚTIÆDIFF_âI.gEPS",
    "IǄÒgTHE*ÒgKAPPAÒgPHIÒgRHOÒgPIÒcBıIT.ICǮ.ąkBE*kGAM=kDEL*kEPSIǄkZE*kE*kTHE*kIO*kKAPPAkóDAkMU",
    "kNUkXIkOMICRONkPIkRHOkTHE*ÒkSIG=k*UkUPSIǄkPHIkCHIkPSIkOMEGAhÕNAB~hICß.ąkBE*kGAM=kDEL*kEPSI",
    "ǄkZE*kE*kTHE*kIO*kKAPPAkóDAkMUkNUkXIkOMICRONkPIkRHOkƻSIG=jœĽG=jß*UkUPSIǄkPHIkCHIkPSIkOMEGA",
    "hÕĚTIÆDIFF_âI.iEPSIǄÒiTHE*ÒiKAPPAÒiPHIÒiRHOÒiPIÒcS$S-S_IF BıŤ.ąoBE*oGAM=oDEL*oEPSIǄoZE*oE*",
    "oTHE*oIO*oKAPPAoóDAoMUoNUoXIoOMICRONoPIoRHOoTHE*ÒoSIG=o*UoUPSIǄoPHIoCHIoPSIoOMEGAnNAB~mOLD",
    "ß.ąqBE*qGAM=qDEL*qEPSIǄqZE*qE*qTHE*qIO*qKAPPAqóDAqMUqNUqXIqOMICRONqPIqRHOqƻSIG=pœĽG=pß*UqU",
    "PSIǄqPHIqCHIqPSIqOMEGAmıĚTIÆDIFF_âI.nEPSIǄÒnTHE*ÒnKAPPAÒnPHIÒnRHOÒnPIÒnIT.ICǮ.ątBE*tGAM=tD",
    "EL*tEPSIǄtZE*tE*tTHE*tIO*tKAPPAtóDAtMUtNUtXItOMICRONtPItRHOtTHE*ÒtSIG=t*UtUPSIǄtPHItCHItPS",
    "ItOMEGAqÕNAB~qICß.ątBE*tGAM=tDEL*tEPSIǄtZE*tE*tTHE*tIO*tKAPPAtóDAtMUtNUtXItOMICRONtPItRHOt",
    "ƻSIG=sœĽG=sß*UtUPSIǄtPHItCHItPSItOMEGAqÕĚTIÆDIFF_âI.rEPSIǄÒrTHE*ÒrKAPPAÒrPHIÒrRHOÒrPIÒcBıŤ",
    "DIGAM=dOLDßDIGAM="]),
  (0x1d7ce, [
    "ěƢBıŦeįeĤeĥeĴeŁeľeŉeŊeŋcĘ-STRUCK ŦlįlĤlĥlĴlŁlľlŉlŊlŋcS$S-S_IF ŦlįlĤlĥlĴlŁlľlŉlŊlŋlBıŦnįnĤn",
    "ĥnĴnŁnľnŉnŊnŋcMONOSPAC^ŦlįlĤlĥlĴlŁlľlŉlŊlŋaSIGNWRITÁHä-FIST ǼműǼmCôǼmOVÆǼmǧ^ǼmƯǼmFIST ƄBâm",
    "űƄBâmFIST ł UNDþƄBârƄRAISÀKNUCK<sCUPPEDsǧEDtÀǹműƄǧEmFIST ƄMIDD<műƄMIDD<mFIST ǼȋBâtRAISÀKNU",
    "CK<StǧEDrƄUPȋǧEDsǧEDȋUPrǼȋCONJO%EDzÀƄBâzEDȋBâzÀCUPPEDzÀǧEDtǊEDműǼȋǊEDmFISTȋBǲȐǼq ƄBǲȐMIDD<",
    "rǼȋłműǼȋłmFIST ǼȋSTRAĸł BâtBǲłřRAIGHTtł BâtǧED,PREAD łĽDErƄUPȋǧÀłĽDEy CONJO%EDsǧEDȋôłĽDErǼ",
    "ȋUP,PREAD ł ĝWŞtł CUPPEDuȈDu ăEDvǧEDrł BETWE+ ǼȋSTRAIGHTrǼȋCONJO%ÀłĽDEzÀłĽD^CONJO%EDzÀłĽD^",
    "Bâqȋł ăÀƄUPq Ƅł ăEDȋUPrǼȋCONJO%ÀǧÀłĽDEtǊÀłĽDEtCONJO%Àł ĝWŞzÀCUPPÀł ĝWŞqȋł CUPPÀƄUPq Ƅł CUP",
    "PEDȋUPqȋłȈD ƄUPwǧEDq Ƅł ÎLÀOUTȋUPx%ȋUPtȈDȋUPrǼȋł CONJO%ÀǧEDvÎLÀOUTw<Dqȋł ÎLÀOUT ƄUPz ƄǊEDw",
    "ƄUPq Ƅł ăEDȋǧEDnL> ŭFÉ_Sv BâwǧEDwCONJO%EDzJO%ED,PLITmC~W ŭFÉ_S CONJO%EDmFIST ŭFÉ_S CONJO%À",
    "Bâmǧ^ŭFÉ_S CONJO%EDmFL> ťFÉ_ƬPREADqHEEL ťFÉ_ƬPREADqťFÉ_ƬPREAD ŭBâqHEEL ťFÉ_ƬPREAD ŭBâqťFÉ_",
    "ƬPREAD BâqHEEL ťFÉ_ƬPREAD BâqťFÉ_ƬPREAD ł ĝWŞmCôťFÉ_ƬPREADy ġmǧ^ťFÉ_ƬPREAD ġmOVÆťFÉ_ƬPREAD",
    "mFL> ťFÉ_ƬPREAD ǧEDzD ǧÀłĽDEzD ǧÀNO łpp BETWE+ P.M FACÉSqHEELqłĽDEqHEEL łĽDEqł BâsĝWŞp,PLI",
    "T ƄłĽDEvñREx^łĽDEzĽD^BâvƦ<mC~Wp łĽDEqNO łqł ĝWŞmă ƶICUEnmCôġnUPnôġ łĽDEołĽDEoġ NO łoNO łoġ",
    " ł ĝWŞoł ĝWŞmƶICU^ġqEmømOV.oÆłĽDEpNO łpł ĝWŞmǧ^ġp ł ĝWŞnEoœn^ġ łĽDEołĽDEoġ NO łoNO łołĽD^T",
    "OUCHÁǼp BETWE+ȋǀmÎ<mFIST ǼȋǀműǼȋǀmǧ^ǼȋǀmƯǼȋǀmǧ^Ʀ<mFIST ǼȋŻBâtRƵONJO%EDmǧ^ǼȋRƵONJO%EDmFIST ",
    "ƦáƈtćRIPP<řRAIGHTyáCURVEDuOTH_SȈDtUPrł UNDþƦáUPműƦáUPmOVÆƦáUPmƯƦáUPmFIST ƦáRAISÀKNUCK<tBât",
    "TOUëS łtłmǧ^ƦáłmFIST ƦáƄłmǧ^ƦáƄłmƯƦáƄł Ƅł OUTumFIST ƦáǼműƦáǼmǧ^ƦáǼmƯƦáǼmFIST ǼȋƦ<műǼȋƦ<mǧ^",
    "ǼȋƦ<oǀmƯǼȋƦ<mFIST ǼȋǊ Ʀ<műǼȋǊ Ʀ<mFIST Żƈmǧ^ŻćƄł ă MIDD<mƯŻƈȋł ƄǊmFIST ŻUPsRAISÀKNUCK<sƦ<mű",
    "ŻƦ<mOVÆŻƦ<mƯŻƦ<mFIST ŻMIDD<rǀȋCONJO%EDtRAISÀKNUCK<SrŻǼsłmă ŻłmFIST ƄŻƦ<műƄŻƦ<mƶICU^ƄŻƦáONm",
    "ă ƄŻƦáOUTs%sUND_mCôƄŻƦ<mǧ^ƄŻƦ<mƯƄŻƦáOUTq<mFISTȋƈmǧ^MIDD<mFISTȋUPmøȋUPmFISTȋRAISÀKNUCK<rôłĽ",
    "DEmăȋłmFISTȋł Ʀ<rƦ<rŻƦ<møȋŻƦ<mƶICUEȋŻƦáONmCUPȋŻƦ<mǧEȋŻƦ<mƯðŻƦáOUTr%q<møȋŻƦáBâmC~WȋŻƦáCONJO",
    "%EDzEDĽDEmăȋŻƦáCONJO%ÀOUTy%xEDmǧ^ƄǧEDmFIST ƄłĽDEmǧ^ƄłĽDEmFIST ƄłĽD^ł ǡ.yCONJO%EDyBâwƄBâwBO",
    "TH BâwƄǧEt ĝWŞ ǼřRAIGHTyƄBâuăuƶICUEuCURŲł %SIDEmC~W Ƅł CURŲł %SIDEmFIST Ƅł CURŲł UND_tȈmCô",
    "Ƅłq ġmǧ^Ƅł ġrŚqqœmƯƄł OUTq%pmFIST łs HEELsĽD^ǡ.vCONJO%EDvBâs ĝWŞtBETWE+ ƄMIDD<zȋǀz ŻƦ<tUND",
    "þæFÉ_SsĲæFÉ_Ss UNDþÿFÉ_SxŭFÉ_SsĲŭRAISÀKNUCK<Sqq HEELjTOUCHž<o MULTIP<pBETWE+jGRASPž<o MULT",
    "IP<pBETWE+iÉřRIKEž<n^MULTIP<oBETWE+iÁBRUSHž<o MULTIP<pBETWE+jRUBž<m MULTIP<nBETWE+iÉ,URòÒS",
    "n BETWE+kQUEEZ^Śž<pEœž<p^Ś MULTIP<pEßMULTIP<qõQUâI.iÁFLICK Śž<oœž<o Ś MULTIP<oßMULTIP<oõQU",
    "âI.iÉ,QUEEZ^FLICK ǬÉiÁMOVEMâ-ǧ^ôćŚtƈœsUPõQUâI.sƈõQUâI.sôćǬÁŚvÉœrEĽD^TOĽDƭCISSORSqWÜƆ^FÉþCO",
    "N*CTqFLOORƆ^FÉþCON*CTqWÜƆEž<řRAIGHTœzĸħzĸŚzĸŚSTváWRIST F<Xt^ĘřRAIGHTuÈWRIST F<XvǬÉwÁWRIST ",
    "F<XuǊuǈ<řRAĸMOVEMâváWRIST F<XwǬÉxÁWRIST F<XuB+Dœx ħyŚuCORN_œyþħzŚzRO*ĳuëCKœx ħyŚuBOXœx ħyŚ",
    "uZIGZAGœzG ħzG ŚuPEAKSœz ħz ŚjTRAVEL-WÜƆ^RO*ĳ-WÜƆEž<zWÜƆ^ĘzWÜƆ^ǬÉzFLOORƆEž<zFLOORƆ^ĘzFLOOR",
    "Ɔ^ǬÉtEĄKÉt^ARM,PIR.ž<zIRÆĘzIRÆǈ<jMOVEMâ-ǡÆAWAYœw ħxŚySTrȚWǩœu ħvŚwSTrÆBETWE+ AWAYœzAWAY ħz",
    "AWAY ŚzAWAY ŚSTzTOWǩœzTOWǩ ħzTOWǩ ŚzTOWǩ ŚSTqFLOORƆEž<řRAIGHTœzřRAĸħzřRAĸŚzřRAĸŚSTyáWRIST ",
    "F<Xw^ĘřRAIGHTxÈWRIST F<XyǬÉzÁWRIST F<XxǊxǈ<řRAĸMOVEMâyáWRIST F<XzǬÁMOVEMâzǬÁWRIST F<XxB+Dx",
    "CORN_œzRNþħzRNþŚxëCKxBOXœzX ħzX ŚxZIGZAGœzGZAG ħzGZAG ŚxPEAKSœzAKS ħzAKS ŚjTRAVEL-FLOORƆ^R",
    "O*ĳ-FLOORƆEž<z*ĳ-FLOORƆ^Ęz*ĳ-FLOORƆ^ǬÉz*ĳ-WÜƆEž<z*ĳ-WÜƆ^Ęz*ĳ-WÜƆ^ǬÉwEĄKÉjMOVEMâ-WÜƆ^CURŲŕÛ",
    "œzơħzơŚzơŚSTyȄ-øœz-űħz-űŚz-űŚSTyƋ-ŕÛȈœz-ŕơűħuHUMPœy ħzŚuLOOPœy ħzŚyßĘuWAŲCURŲĘœzRŲÈħzRŲÈŚz",
    "RŲǈ<œzRŲǈáħzRŲǈáŚuCURŲTH+řRAIGHTxVÀǊœzǊ ħjRO*ĳ-WÜƆEž<r^ĘsǬEjMOVEMâ-WÜƆEĄKÉt^CURŲHITTÁFRONT",
    " WÜuHUMP HITTÁFRONT WÜuLOOP HITTÁFRONT WÜuWAŲHITTÁFRONT WÜjRO*ĳ-WÜƆEžáHITTÁFRONT WÜr^ÈHITT",
    "ÁFRONT WÜsǬÁHITTÁFRONT WÜjMOVEMâ-WÜƆ^CURŲHITTÁëSTuHUMP HITTÁëSTuLOOP HITTÁëSTuWAŲHITTÁëSTj",
    "RO*ĳ-WÜƆEžáHITTÁëSTr^ÈHITTÁëSTsǬÁHITTÁëSTjMOVEMâ-WÜƆ^WAŲǡÆP>HœzP>H ħzP>H ŚqFLOORƆ^CURŲHITT",
    "ƵEILÉœzRŲHITTƵEILÁŚxHUMP HITTƵEILÉßĘzMP HITTƵEILÁŚ ĘzMP HITTƵEILÉßǈ<zMP HITTƵEILÁŚ ǈ<xLOOP",
    " HITTƵEILÉœž<zOP HITTƵEILÁŚž<zOP HITTƵEILÉßĘzOP HITTƵEILÁŚ ĘxWAŲHITTƵEILÉœzŲHITTƵEILÁŚjRO*",
    "ĳ-FLOORƆEžáHITTƵEILÉu^ÈHITTƵEILÉvǬÁHITTƵEILÉjMOVEMâ-FLOORƆ^CURŲHITTÁFLOORœzRŲHITTÁFLOOR Śx",
    "HUMP HITTÁFLOORßĘzMP HITTÁFLOOR Ś ĘzMP HITTÁFLOOR ǈ<ßǈ<zMP HITTÁFLOOR ǈáŚ ǈ<xLOOP HITTÁFLO",
    "ORœž<zOP HITTÁFLOOR Śž<zOP HITTÁFLOORßĘzOP HITTÁFLOOR Ś ĘxWAŲHITTÁFLOORœzŲHITTÁFLOOR ŚjRO*",
    "ĳ-FLOORƆEžáHITTÁFLOORu^ÈHITTÁFLOORvǬÁHITTÁFLOORjMOVEMâ-FLOORƆ^CURVEœzRŲħzRŲŚzRŲŚSTzRVEǋīED",
    "xHUMPœxLOOPœxWAVƭNAKEzVEœzŲŚjRO*ĳ-FLOORƆEž<u^ĘvǬÉjMOVEMâ-FLOORƆEĄKÁĚ.<LqWÜƆ^ARMȈœž<x űħž<x",
    "ȈßĘx űħ ĘqFLOORƆ^ARM űHITTÁWÜœž<zM űHITTÁWÜ ħž<zM űHITTÁWÜ Śž<zM űHITTÁWÜßĘzM űHITTÁWÜ ħ Ę",
    "zM űHITTÁWÜ Ś ĘqWÜƆ^WRIST űFRONTž<z űFRONT ĘqFLOORƆ^WRIST űHITTÁWÜž<zIST űHITTÁWÜ ĘqWÜƆ^FÉ",
    "_ȈSž<z ĘqFLOORƆ^FÉ_ȈS HITTÁWÜž<z_ȈS HITTÁWÜ ĘjDYNAMÕšœq ŚpFASToIC,ǹqųSEoÕRE~XEDoICĽMULT$EO",
    "USzS ǬÉoÕEŵY OTHþȕpGRADU.jHEADn RIMoMOVEMâ-WÜƆEřRAIGHTy^TILTvFLOORƆEřRAIGHTvWÜƆ^CURVEvFLOO",
    "RƆ^CURVEuȈjò DIREŜ POSIĳ NOS^ĝWŞ TILTÉzS^ôOR ƈzS^ôOR ćTILTÉjEYEBROWSřRAĸUPvNEUTR.vƈjDREAMY",
    " EYEBROWS NEUTRÆƈzćNEUTR.zôNEUTR.zNEUTRÆUPjĝEHEAD NEUTR.qCON*CTqWR%K<DjEYES ġmƬQUEEZEDmS C",
    "LOSEDl^BL%Kž<q MULTIP<lES āġoWID^ġoāCLOSEDoWID+ÁMOVEMâl^W%KlE~SHES UPsƈsFLUTTEǀmGAZE-WÜƆEř",
    "RAIGHTyĸĘzǬÉrFLOORƆEřRAIGHTzRAĸĘzRAĸǬÉrWÜƆ^CURVEDrFLOORƆ^CURVEDrWÜƆ^CIRCLÉjëEKS PUFFEDoNEU",
    "TR.mƬUCKEDiÉųS^ëEKS HIGHrMIDD<rǹiÁEARSjNOS^NEUTR.nCON*CTnWR%K<SoIGG<SjAIR BǹÁOUTm,UCKÁ%m B",
    "ǹßRO*ĳSm,UCKßRO*ĳSjBRE>H %!<pEX!<jMǆCLOSÀNEUTR.qĝWŞqCON*CTlSMI<oáWR%K<DpġlFROWNq WR%K<Drġl",
    "ġȈm ĝWŞnWR%K<DnOV.pÆWR%K<DqYAWNnRECTÎ<rƯWR%K<DsYAWNlKISSnưĝWŞoWR%K<DlĮSEn^ĝWŞnƭUCKEDjLIPS ",
    "PRESSÀTOGETH_m ēȐUPĢnĿȐǹ_jMǆCORN_SlWR%K<Sž<r ĘjTONGUƭňKÁOUT FARo^LICKÁLIPSpTIP BETWE+ LIPS",
    "tTOUCHÁ%SID^MOUTHp%SID^MǆRE~XEDpMOVES AGA%ST ëEKpñRƭňKÁOUTr^%SID^MOUTHkEETHo MOVEMâpÖTONGU",
    "Ev^MOVEMâqLIPSu MOVEMâpBIT^LIPSjMOVEMâ-WÜƆ^JAWqFLOORƆ^JAWjNECKj!IRjEXCITEMâiÉ,HOULDþHIP,P%",
    "Et POSIĳSiÁWÜƆƭHOULDþHIP MOVEjFLOORƆƭHOULDþHIP MOVEiÉ,HOULDþTILTÁFROM WAISTiÁTORSO-WÜƆEřRA",
    "ĸSTRETCHs^CURVÀB+DpFLOORƆ^TWISTÉjĿBODY TILTÁFROM HIP JO%TSjLIMBǋīìn L+GTH-1u2u3u4u5u6u7jFÉ",
    "_jLOCì-WÜƆƭPACEoFLOORƆƭPACEn HĈoWIDTHoDEPTHoHEAD NECKoTORSOoLIMBS DIGITSiÉǋ=iÁǠiÉõMICǤiƵǤi",
    "ÁǏSIS"]),
  (0x1da9b, ["SIGNWRITÁFILL MODIFI_-2w3w4w5w6"]),
  (0x1daa1, ["SIGNWRITÁRO*ĳ MODIFI_-2w3w4w5w6w7w8w9w10x1vŌv-13x4x5x6"]),
  (0x1df00, [
    "ƨ;F+G DIGRč&TRILLcŰSǚGb ūŤŏGb;ŰKb ūŤǍBELTb;<ZÞȁcŏY&BELTcŰ+GcŏR&Ƈ<GÐȁcTśÐȁb:RETROF<X CLICK&",
    "ȁb;ESÞĘĎhÐƶcŏǨƶb:ƖGLOTTȍń&ƶbËTRETCHÀC&ƶb ūŤŏKb;ǍFĆăcDEZH DIGRč&P.>ÆăcǍBELTÐP.>Æăc+G&P.>Æăc",
    "ŏR&P.>ÆăcR&FĆăÐP.>ÆăcTESH DIGRč&P.>ÆăcEZÞP.>ÆăcDEZH DIGRč&ȁcI ĐÐȁcŸȁcTESH DIGRč&ȁcC&ȁbŎ&ƶ"]),
  (0x1e000, ["đīÁG~GOLIňÇZUk:BUKYlVEDElG~GOLIlDOBROlYESTUlZHIVETE"]),
  (0x1e008, [
    "đīÁG~GOLIň:ZEMLJAlIZHEl%ITIÆIZHElIlDJ_VIlKAKOlLJUDIJElMYSLITElNASHIlONUlPOKOJIlRITSIkËLOVO",
    "k:TVRIDOlUKUlFRITUlH_U"]),
  (0x1e01b, ["đīÁG~GOLIňËH*k:TSIlCHRIVIkË!k:Y_UnIm>I"]),
  (0x1e023, ["đīÁG~GOLIň:YUjTÕūYUS"]),
  (0x1e026, ["đīÁG~GOLIň:YOlIOT>EDßYUSlBIG YUSlIOT>ÀBIG YUSlFI*"]),
  (0x1e100, [
    "NYIAK+G PUACHU^HMONG:=vTSAvN*v*v!vNAvXAvNKAvCAv~uËAu:ZAvNCAwTSAvKAvDAvİvNRAvVAvNTXAvTXAvFA",
    "vRAvQAvYAvNQAvPAvXYAvNPAvD~vNP~v!HvM~vP~vGAvRRAuÇvAu:IvUvOwOvEwEvW"]),
  (0x1e130, ["NYIAK+G PUACHU^HMONG TÍ-ByMyJyVySyGyDuÊĝ ĢSONxTǧxLOCìx$Iȅx%ŵTEBR>EvXW XWuƝL+GTH+_"]),
  (0x1e140, ["NYIAK+G PUACHU^HMONG ŦvįvĤvĥvĴvŁvľvŉvŊvŋ"]),
  (0x1e14e, ["NYIAK+G PUACHU^HMONG LOGOGRAM İJuȈD CA"]),
  (0x1e290, [
    "TOTO:PAfBAf*fDAfKAfGAf=fNAfĔcĨƤAcTO:ÔfYAfWAfJAf!fRAf~fIfBRE>HY IfIUfBRE>HY IUfUfEfBRE>HY E",
    "fEOfBRE>HY EOfOeÇEe:BRE>HY AEeÇeÊRISÁTÍ"]),
  (0x1e2c0, [
    "W$CHOÇAgf:BAgCAgDAgGAgYAgąg~gNAgPAg*gċgFAfËAg!f:JAgZAgWAgVAgKAgOfÇUf:RAg=gÚg!gEgIgĔgUgLL!g",
    "TSAhRAgONGfÇÎf:ÎgÉgONg+fÇ$f:İgU+gYIHf TÙTUPlNIiKOIk%IgŦgįgĤgĥgĴgŁgľgŉgŊgŋ"]),
  (0x1e2ff, ["W$CHO NGUNÂ"]),
  (0x1e7e0, ["ETHIOPICƝHHYAmUmImAAmEEnmO"]),
  (0x1e7e8, ["ETHIOPICƝGURAG^HHWAjHHWImEEn"]),
  (0x1e7ed, ["ETHIOPICƝGURAG^MWIrEE"]),
  (0x1e7f0, ["ETHIOPICƝGURAG^QWIrEEspBWIrEEpKWIrEEspGWIrEEspFWIrEEpPWIrEE"]),
  (0x1e800, [
    "M+D^KIKAKUIƝM001 KIp2 KAp3 KUo65 KEEo95 KEo76 KOOo48 KOn179 KUAn004 WIp5 WAp6 WUn126 WEEo1",
    "8 WEp4 WOOn045 WOn194 WUIo43 WEIn061 WVIo49 WVAn139 WVEn007 M%p8 M$p9 MUNo59 M+o94 MONn154",
    " MU$o89 MU+n010 BIp1 BAp2 BUn150 BEEn097 BEn103 BOOo38 BOn013 Ip4 Ap5 Un163 EEo00 Eo65 OOo",
    "47 Oo37 EIp1 %p5 %o95 $o78 +n019Ľo20,Ap1,Un162õEo16õo36,OOn079,On196ĽAn025 LIp6 ~p7 LUo84 ",
    "<Eo73 <o54 LOOn153 LOo10 Ƈ<n016 DIp7 DAp8 DUo89 DEEn180 DOOp1 DOn022 TIp3 *p4 TUo91 TEEo55",
    " TEn104 TOOn069 TOo28 JIp9 JAo30 JUn157 JEEo13 JEo60 JOOn063 JOn175 ƇJOn031 YIp2 YAp3 YUn1",
    "09 YEEn080 YEn141 YOOo21 YOn034 FIp5 FAp6 FUo78 FEEp5 FEn133 FOOn088 FOn197 FUAo01 F$n037 ",
    "N%p8 N$p9 NUNn117 N+o69 NONo76 HIn041 !n186 HUn040 HEEo96 HEo42 HOOn140 HOn083 HEEIn128 HO",
    "OUn053 H%n130 H$n087 HUNo52 H+n193 HONn046 HU$o90 NGGIo43 NGGAo82 NGGUn115 NGGEEo46 NGGEo5",
    "6 NGGOOo20 NGGOo59 NGGAAo27 NGGUAn086 ƇNGGEn106 ƇNGGOOo83 ƇNGGOo55 GIo11 GAo68 GUo90 GEEo6",
    "6 GUEIp7 GU$o84 NG+n057 NGONn177 NGU$n068 PIo99 PAo50 PUo81 PEEo51 PEn102 POOn066 POn145 M",
    "BIn062 MBAn122 MBUn047 MBEEn188 MBEEn072 MBEn172 MBOOp4 MBOo87 MBUUo61 ƇMBEo05 ƇMBOOo42 ƇM",
    "BOo32 KPIn092 KPAo74 KPUo44 KPEEn108 KPEo12 KPOOo58 KPOo24 GBIn056 GBAn148 GBUn093 GBEEn10",
    "7 GBEn071 GBOOp0 GBOn171 RAo23 NDIp9 NDAp5 NDUo91 NDEEo19 NDEn067 NDOOp4 NDOn152 NJAo92 NJ",
    "Uo49 NJEEo34 NJOOo82 VIp5 VAo51 VUo73 VEEn085 VEn144 VOOn077 VOn164 NY%n058 NY$n170 NYUNn0",
    "98 NY+o60 NYON"]),
  (0x1e8c7, ["M+D^KIKAKUI įmĤmĥmĴmŁmľmŉmŊmŋlǋīÁNĩƎSpƿųSpĩçSqúSpƿų úSpĩç úSqMILLŖS"]),
  (0x1e900, [
    "ADó|.IFeDA.Ie~AMeMIIMeBAdŷ%NYIIYHEd|PEeBHEeRAeEeFAeIeOeD!eYHEeWAWeNUNeKAFeYAeUeJIIMeCHIe!e",
    "QAAFeGAeİeTUeN!eVAeÚeGBEeZ.eKPOdŷ!d;.IFeDA.Ie~AMeMIIMeBAdŎ%NYIIYHEd;PEeBHEeRAeEeFAeIeOeD!e",
    "YHEeWAWeNUNeKAFeYAeUeJIIMeCHIe!eQAAFeGAeİeTUeN!eVAeÚeGBEeZ.eKPOdŎ!d .IF L+GTH+_eVOWEL L+GT",
    "H+_eGEM%ŗe!MZAeCONSON$T MODIFI_eGEM%>^CONSON$T MODIFI_eNUK*fAS.IZŗ"]),
  (0x1e950, ["ADó ŦeįeĤeĥeĴeŁeľeŉeŊeŋ"]),
  (0x1e95e, ["ADó %ITIÆEXCóŗjQUESĳÏ"]),
  (0x1ec71, [
    "%DICĽYAQ NĩÍlČlƋlƀlǑkǿkƿğkĩĈlŶkƿųkĩǝlŹTYlĝTYlFIFTYkǿTYkƿğTYkĩĈYlŶTYlÙçlæçlÿçlŭçlťçkǿ çkƿğ ",
    "çkĩEĸçlNǴçlÙúlæúlÿúlŭúlťúkǿ úkƿğ úkĩEĸúlNǴúkƿų úkĩǝ úlŹĦúlĝĦúlFIFĦúkǿĦúkƿğĦúkĩĈY úlŶĦúl~KH",
    "o$j~KHÏjNĩKARORq$lPREFIXÀÍsČsƋsƀsǑrEDżtğrÀĈsŶjP~CEHOLD_jFRAŜ ÙŕÛpȄoÿŕÛSjRUPEEÏjNĩǬ^ÍnČmEų ",
    "újǬ^~KHÏ"]),
  (0x1ed01, [
    "OTTOM$ĽYAQ NĩÍnČnƋnƀnǑmǿmƿğmĩĈnŶmƿųmĩǝnŹTYnĝTYnFIFTYmǿTYmƿğTYmĩĈYnŶTYnÙçnæçnÿçnŭçnťçmǿ çmƿ",
    "ğ çmĩEĸçnNǴçnÙúnæúnÿúnŭúnťúmǿ úmƿğ úmĩEĸúnNǴúmƿų úmĩǝ únŹĦúnĝĦúnFIFĦúmǿĦúmƿğĦúmĩĈY únŶĦúl=",
    "RR>$lǬ^NĩČpƋpƀpǑoǿoƿğoĩĈpŶoƿųoĩŭçoǿ çoĩæúoƿų úlFRAŜ ÙȄqÍżTH"]),
  (0x1ee00, ["Ə ěƢĖFeBEHeJEEMeD."]),
  (0x1ee05, [
    "Ə ěƢWAWeZA%e!He*HeYEHeKAFeóeMEEMeNOONeSE+eA%eFEHeSADeQAFeREHeSHE+eTEHfHEHeÚHeTH.eDADeZAHeŠ",
    "%eö<ưBEHhNOONhFEHhQAF"]),
  (0x1ee21, ["Ə ěƢ%ITIÆBEHjJEEM"]),
  (0x1ee24, ["Ə ěƢ%ITIÆHEH"]),
  (0x1ee27, ["Ə ěƢ%ITIÆ!H"]),
  (0x1ee29, ["Ə ěƢ%ITIÆYEHjKAFjójMEEMjNOONi.õ+iÆA%jFEHiȍADiÆQAF"]),
  (0x1ee34, ["Ə ěƢ%ITI.Ū+iÆTEHkHEHjÚH"]),
  (0x1ee39, ["Ə ěƢ%ITIÆDAD"]),
  (0x1ee3b, ["Ə ěƢ%ITIÆŠ%"]),
  (0x1ee42, ["Ə ěƢŅÀJEEM"]),
  (0x1ee47, ["Ə ěƢŅÀ!H"]),
  (0x1ee49, ["Ə ěƢŅÀYEH"]),
  (0x1ee4b, ["Ə ěƢŅÀó"]),
  (0x1ee4d, ["Ə ěƢŅÀNOONe*I<Dõ+eŅÀA%"]),
  (0x1ee51, ["Ə ěƢ*I<D,ADeŅÀQAF"]),
  (0x1ee54, ["Ə ěƢ*I<DŪ+"]),
  (0x1ee57, ["Ə ěƢŅÀÚH"]),
  (0x1ee59, ["Ə ěƢŅÀDAD"]),
  (0x1ee5b, ["Ə ěƢŅÀŠ%"]),
  (0x1ee5d, ["Ə ěƢŅÀö<ưNOON"]),
  (0x1ee5f, ["Ə ěƢŅÀö<ưQAF"]),
  (0x1ee61, ["Ə ěƢSTRETCHÀBEHmJEEM"]),
  (0x1ee64, ["Ə ěƢSTRETCHÀHEH"]),
  (0x1ee67, ["Ə ěƢSTRETCHÀ!Hm*HmYEHmKAF"]),
  (0x1ee6c, ["Ə ěƢSTRETCHÀMEEMmNOONjëDõ+jCHÀA%mFEHjëD,ADjCHÀQAF"]),
  (0x1ee74, ["Ə ěƢSTRETëDŪ+jCHÀTEHnHEHmÚH"]),
  (0x1ee79, ["Ə ěƢSTRETCHÀDADmZAHmŠ%mö<ưBEH"]),
  (0x1ee7e, ["Ə ěƢSTRETCHÀö<ưFEH"]),
  (0x1ee80, ["Ə ěƢLOOPÀĖFjBEHjJEEMjD.jHEHjWAWjZA%j!Hj*HjYEH"]),
  (0x1ee8b, ["Ə ěƢLOOPÀójMEEMjNOONiEDõ+iÀA%jFEHiED,ADiÀQAFjREHiEDŪ+iÀTEHkHEHjÚHjTH.jDADjZAHjŠ%"]),
  (0x1eea1, ["Ə ěƢĘ-STRUCK BEHnJEEMnD."]),
  (0x1eea5, ["Ə ěƢĘ-STRUCK WAWnZA%n!Hn*HnYEH"]),
  (0x1eeab, ["Ə ěƢĘ-STRUCK ónMEEMnNOONmõ+m A%nFEHm,ADm QAFnREHmŪ+m TEHoHEHnÚHnTH.nDADnZAHnŠ%"]),
  (0x1eef0, ["Ə ěƢǯ MEț!ÞT>WEELg!ÞD."]),
  (0x1f000, [
    "=HJONG TIáƜW%Dj<,ǆW%DjáǇW%DkǖW%DkRÀDRAGONkGRE+ DRAGONk×DRAGONkÙØÔRACÛSkæØÔRACÛSkÿØÔRACÛSkŭ",
    "ØÔRACÛSkťØÔRACÛSj<ż ØÔRACÛSkğ ØÔRACÛSjáEĸØÔRACÛSkNǴØÔRACÛSkÙØBAMBOOSkæØBAMBOOSkÿØBAMBOOSkŭ",
    "ØBAMBOOSkťØBAMBOOSj<ż ØBAMBOOSkğ ØBAMBOOSjáEĸØBAMBOOSkNǴØBAMBOOSkÙOFȈSkæOFȈSkÿOFȈSkŭOFȈSkť",
    "OFȈSj<ż OFȈSkğ OFȈSjáEĸOFȈSkNǴOFȈSkPLUMkORCHIDkBAMBOOkCHRYS$THEMUMj<,PǀlUMM_jáAUTUMNkW%ÛkJ",
    "OK_kBŀ"]),
  (0x1f030, [
    "DOM%O TIáƟBŀjǞ.-00-00q1q2q3q4q5q6n1-00q1q2q3q4q5q6n2-00q1q2q3q4q5q6n3-00q1q2q3q4q5q6n4-00q",
    "1q2q3q4q5q6n5-00q1q2q3q4q5q6n6-00q1q2q3q4q5q6jĀBŀjƮ.-00-00q1q2q3q4q5q6n1-00q1q2q3q4q5q6n2-",
    "00q1q2q3q4q5q6n3-00q1q2q3q4q5q6n4-00q1q2q3q4q5q6n5-00q1q2q3q4q5q6n6-00q1q2q3q4q5q6"]),
  (0x1f0a0, [
    "P~YƵŞ BŀgAC^OF,PADESgæOF,PADESgÿOF,PADESgŭOF,PADESgťOF,PADESfż OF,PADESfğ OF,PADESf EĸOF,P",
    "ADESgNǴOF,PADESfų OF,PADESf Jŀ OF,PADESgKNĸOF,PADESgQUE+ OF,PADESgKÁOF,PADES"]),
  (0x1f0b1, [
    "P~YƵŞ AC^ØǐTSgæØǐTSgÿØǐTSgŭØǐTSgťØǐTSfż ØǐTSfğ ØǐTSf EĸØǐTSgNǴØǐTSfų ØǐTSf Jŀ ØǐTSgKNĸØǐTS",
    "gQUE+ ØǐTSgKÁØǐTSgRÀJOK_"]),
  (0x1f0c1, [
    "P~YƵŞ AC^ØƼSgæØƼSgÿØƼSgŭØƼSgťØƼSfż ØƼSfğ ØƼSf EĸØƼSgNǴØƼSfų ØƼSf Jŀ ØƼSgKNĸØƼSgQUE+ ØƼSgKÁ",
    "ØƼSgîJOK_"]),
  (0x1f0d1, [
    "P~YƵŞ AC^ØCLUBSgæØCLUBSgÿØCLUBSgŭØCLUBSgťØCLUBSfż ØCLUBSfğ ØCLUBSf EĸØCLUBSgNǴØCLUBSfų ØCL",
    "UBSf Jŀ ØCLUBSgKNĸØCLUBSgQUE+ ØCLUBSgKÁØCLUBSg×JOK_gFOOLgTRUMP-1m2m3m4m5m6m7m8m9m10n1lŌl-1",
    "3n4n5n6n7n8n9m20n1"]),
  (0x1f100, [
    "Ŧ Ǡbǋ=aįǋ=aĤǋ=aĥǋ=aĴǋ=aŁǋ=aľǋ=aŉǋ=aŊǋ=aŋǋ=aDÉB>ȈD,$S-S_IF Ŧe NEG>IVEȈD,$S-S_IF ŦaøD Z_ŸS~S",
    "Hd$ňǁWIS^ÅdDOĪRÂ&ƃ~ID BŀS~SHaǏSIZÀƨƌg|BhChDhEhFhGhHhIhJhKhLhMhNhOhPhQhRgŷg|ThUhVhWhXhYhZaT",
    "ORTOISEŪLL ïÀƨŷaøD IT.Õƨ|CjRdCDdWZaCOPYĒÒaSŕÀƨƌe|BfCfDfEfFfGfHfIfJfKfLfMfNfOfPfQfReŷe|TfUf",
    "VfWfXfYfZdHVdMVcED,DfScÀPPVdWCaNEG>IVEȈD ƨƌl|BmCmDmEmFmGmHmImJmKmLmMmNmOmPmQmRlŷl|TmUmVmWm",
    "XmYmZaRAISÀMCÂgDÂgRÂaøD CCe&ƃ~ID BŀS~SHdHUMÓFIGUREaNEG>IVEģD ƨƌl|BmCmDmEmFmGmHmImJmKmLmMmN",
    "mOmPmQmRlŷl|TmUmVmWmXmYmZaǊÀNEG>IVEģD ƨ|PaNEG>IVEģD ICkPAj,Aj ABkWCaSŕ^DJcÀCLeOOLdFREEdIDd",
    "NEWeGdOKcED,OScÀUP&EXCóŗdVSdÿDcEDõCOND,CRE+cÀæKdŭKdEĸKdťŽ ÍcEDğ Ž ÍcÀǝ-æŽ ČcEDżĦPcÀÙç ǝ Pd",
    "ƨ;DdHCeDReI-RESdLOSS<SScED,HVcÀUHDdVODa=SK WORKÒ"]),
  (0x1f1e6, [
    "REGŖÆ%DIC>ORÒÇn:BoCoDoEoFoGoHoIoJoKoLoMoNoOoPoQoRmŢƤmÒ:ToUoVoWoXoYoZaSŕ^HIRAGŝHOKAcÀKA*KŝK",
    "OKOh$A,A"]),
  (0x1f210, [
    "SŕÀCJK UNIǻIDEOGRč-624Bt5B57u3CCdKA*KŝDEdCJK UNIǻIDEOGRč-4E8Ct591At89E3t5929t4EA4t6620t712",
    "1t6599t524DuF8Cu18Dt65B0t521Dt7D42u51Ft8CA9t58F0u439t6F14u295u355t4E00w9t904At5DE6t4E2Dt53",
    "F3t6307t8D70t6253t7981uA7At5408t6E80u709w8t7533t5272u5B6t914D"]),
  (0x1f240, [
    "TORTOISEŪLL ïÀCJK UNIǻIDEOGRč-672CzOGRč-4E09zOGRč-4E8CzOGRč-5B89zOGRč-70B9zOGRč-6253zOGRč-",
    "76D7zOGRč-52DDzOGRč-6557"]),
  (0x1f250, ["øD IDEOGRč ADV$*GEmCCEPT"]),
  (0x1f260, ["RĊDEDŢĝ FUiLUh,HOUh XIh,HUÎXIh CAI"]),
  (0x1f300, [
    "CYCLÍaFOGGYaCLOSÀUMBREĪaNĸƴƙSaSUNRIS^ȐMĊ*%SgEaCITYSCAP^> DUSKaSUNSETĲBUILDÉSaRA%BOWaBRIDG^",
    "> NIGHTaWAơWAVEaVOLC$OaMILKY WAYaEARTH GLOB^EUROPE-AFRICAlAM_ICASmSIA-AUSTR.IAaGLOBĂM_IDI$",
    "SaNEW MOONÒaWAXƵRESCǲMOONÒaFIRST ŕơMOONÒaWAXÁGIBBOUS MOONÒaFULL MOONÒaW$ÁGIBBOUS MOONÒa~ST",
    " ŕơMOONÒaW$ƵRESCǲMOONÒaCRESCǲMOONaNEW MOƫòaFIRST ŕơMOƫòa~ST ŕơMOƫòaFULL MOƫòaSUN&òaGǹÉƙaSH",
    "OOTÉƙaTH_MOMEÛaîDROP<TaƸ,UNe ƴßCLOUDfBEH%D CLOUDpƱRA%aCLOUƱRA%fSNOWfǘNÉfTORNADOaFOGaW%D Bǹ",
    "ÁòaHOT DOGa*COaBURRITOaëSTNUTaSEEDLÉaEŵGRE+ TREEaDECIDUOUS TREEaP.M TREEaCACTUSaHOT PEPĢaT",
    "ULIPaCH_RY BLOSSOMaROSEaHIBISCUSaSUNFǹ_aBLOSSOMaEAR Ø=IZEfRICEaH_Baŭ<AF CLƃa=Pá<AFaFÜ+ <AF",
    "a<AF FLUTTEŻşW%DaMUSHROOMaTOěOaAUB_G%EaGRAPESaMEǄaWǛMEǄaTÎ_%Ea<MONaB$$AaP%EAPP<aRÀAPP<aGRE",
    "+ APP<aPEARdCHaCH_RIESaSTRAWB_RYa!MBURG_aSLIC^ØPIZZAaME> ÖBÍaPOULTRY <GaRIC^CRŀ_eBÜaCOOKÀR",
    "ICEbURRYÐRICEaSTEAMÁBOWLbPAGHETTIaBREADaFR+CH FRIESaROASTED,WEET POT>OaDÎOaOD+aSUSHIaFRIED",
    ",HRIMPbĆ CAK^ȗWIRL DESIGNaSOFT IC^CREAMb!VÀICEaIC^CREAMaDOUGHNUTaCOOKIEbHOCOL>EĎbäYaLOLLIP",
    "OPaCUSTŞaHÍY POTaSĞTCAKEaB+ĨBOXaPOT ØFOODaCOOKÉaĝKÐKNIFEaTEACôƴOUT Hä<aSAK^BOTT<ÐCUPaWǴG~S",
    "SaCOCKŅ G~SSaTROPǃDR%KaBEþMUGaCL%KÁBEþMUGSaBABY BOTT<aĝKÐKNIFĂPL>EaBOTT<&POPPƵORKaPOPCORNa",
    "RIBBONaWRAPPÀPRESâaBIRTHDAY CAKEaJŀ-O-L$ÛNaCHRIST=S TREEaF>HþCHRIST=SbIREWORKSi,ĚKL_aBÜOON",
    "aĚĦPOPĢaCONFETTI BÜaT$ABA* TREEaǊÀF~GSaPǴDECORìaJAP$ES^DOLLSaCARPřREAM_aW%D CHIMEaMOÖVIEWƵ",
    "_EMONYaSCHOOL,>ëLaGRADUì CAPaǐǨTIP ÖTH^ĒaBOUQUET ØFǹ_SaMILI*RY MED.aREM%DþRIBBONaMUSǃKEYBO",
    "Ş&JŀSaSTUDIO MICROPHÍa<VEL,LID_aCONTROL KNOBSaBEAMÀASC+DÁMUSǃNOTESfDESC+DÁMUSǃNOTESaFILM F",
    "RAMESaADMISSIÖňKETSaCAROUSEL ĞSEaF_RIS WHEELaROLLþCOASÛaFĆÁPO<ÐFĆaMICROPHÍbOVI^CAM_AaC%E=a",
    "HEADPHÍaARTIST PĖTTEań H>aCIRCUSųTaňKETaC~PPþBOŞaĢƚÁARTSaVIDEO GAMEaDIRECT HITaSLOT =CH%Ea",
    "BILLIǩaGAM^DIEaBOWLÉaFēP~YƵǩaMUSǃNOTEcLTIPáMUSǃNOTESaSAXOPHÍaGUI*RaMUSǃKEYBOŞaTRUMPETaVIOL",
    "%aMUSǃSCOREaRUNNÉ,HIRǨSASHaĮNIS RACQUETÐBÜaSKIÐSKI BOOTaBASKETBÜÐHOOPaëQU_ÀF~GaSNOWBOŞ_aRU",
    "NN_aSURF_bPORTS MED.aTROPHYaĞS^RACÉaAM_ICÓFOOTBÜaRUGBY FOOTBÜaSWIMM_aWEĸLIFÛaGOLF_aRACÁMOT",
    "ORCYC<dƵARaCRICKET B>ÐBÜaVOL<YBÜaFIELD HOCKEY,ňKÐBÜaIC^HOCKEY,ňKÐPUCKa*B<ųNIS PADD<ÐBÜaSNO",
    "W CAPPÀMĊ*%aCAMPÉaBEACÞUMBREĪbUILDƵONSTRUŜaHOUS^BUILDÉSaCITYSCAPEaD_ELICT HOUS^BUILDÉaC~SS",
    "ǃBUILDÉaDES_Tf ISLäaNìÆĚKaS*DIUMaHOUS^BUILDÉeĂGŞ+aOFFIC^BUILDÉaJAP$ES^POST OFFICEaEUROPEÓP",
    "OST OFFICEaHOSPIT.aB$KaAUTOěÀTELLþ=CH%EaHOTELaLOŲHOTELaCONV+I+CEřOREaSCHOOLaDEĚTMâřOREaFAC",
    "TORYaIZAKAYA L$ÛNaJAP$ES^CAST<aEUROPEÓCAST<a×P+N$TaîP+N$TaWAVÁ×F~GeîF~GaROSETTEaîROSETTEa~",
    "BELaBADM%TÖRACQUETÐSHUTT<COCKbOWÐÅaAMPĞAaEMOJI MODIFIþFITZP>RICK TYPE-1-2zYPE-3zYPE-4zYPE-",
    "5zYPE-6aR>aMOUSEaOXaWAơBUFF.OaCOWaTIG_a<OPŞaRABBITaC>aDRAGONaCROCODI<aW!<aSNAILdKEaĞSEaRAM",
    "aGO>aSHEEPaMONKEYaROOSÛaCHICK+aDOGaPIGaBOARaE<PH$TaOCńUSaSPIR.ŪLLaBUGa$TaHÍYBEEa~DY BEET<a",
    "FĆaTROPǃFĆaBǹFĆaTURT<aH>CHƵHICKaBABY CHICKaFRONT-FACÁBABY CHICKaBIRDaP+GU%aKOA~aPOOD<aDROM",
    "EDARY CAMELaBACTRIÓCAMELaDOLPH%aMOUS^òaCOW òaTIGþòaRABBIT òaC> òaDRAGÖòaSPOUTÁW!<aĞS^òaMON",
    "KEY òaDOG òaPIG òaFROG òa!MSơòaWOLF òaBEAR òaPäA òbIG NOSEbAW PR%TSaCHIPMUNKaEYESdbARaNOSE",
    "aMOUTHaTONGUEa×ô÷BŀHÌǼbć÷BŀHÌǼbÃ÷BŀHÌǼbÄ÷BŀHÌǼaFISTÀHäÂaWAVÁHäÂaOK HäÂałS UPÂdƈÂaC~PPÁHäƪa",
    "ġ HäƪaCROWNaWOM$S H>aEYEG~SSESaNECKTIEaT-SHIRTaJE$SaDRESSaKIMONOaBIK%IaWOM$S CLOTHESaPURSE",
    "aHäBAGaPOUCHaM$ƬHOEa>H<ň,HOEaHIGH-HEE<D,HOEaWOM$Ƭä.eS BOOTSaFOOTPR%TSaBUST %ĽLHOUETTEeS %Ľ",
    "LHOUETTEbOYaGIRLaM$aWOM$aFAMILYaM$ÐWOMÓHOLDÁHäSaæM+ HOLDÁHäSbWOM+ HOLDÁHäSaPOLIC^OFFIC_aWO",
    "M$&BUNNY EARSaBRIDĂVEILaĢSƫBǄD !IRaM$&GUA PI =OdTURB$aOLDþM$eWOM$aBABYaCONSTRUŜ WORK_aPR%C",
    "ESSaJAP$ES^OGREhGOBL%aGHOSTaBABY ÎELaEXTRǛRESTRIÆ.I+a.I+ MONSÛaIMPaSKULLa%ƚì DESK ĢSONaGUǩ",
    "M$aD$C_aLIPSňKaNAIL POLĆaò =SSAGEa!IRCUTaüBþPO<aSYǀEaPILLaKISSÏaLOŲ<TÛaǀaGEMřÍaKISSaBOUQUE",
    "TaCOUP<&ǐTaWEDDÉaBE>ÁǐTbROK+ ǐTaæǐTSaSĚKLÁǐTaGROWÁǐTaǐǨÅaBLU^ǐTaGRE+ ǐTaYELėǐTaPURPáǐTaǐǨR",
    "IBBONaREVOLVÁǐTSaǐT DECORìaƼĄPĂA Ʋ%SIDEaE<CTRÕŮBULBaÎ_ÒaBOMBaS<EPÉÒaCOLLISŖÒaSP~Sǧ,WE>ÒaDR",
    "OP<TbASHÒaPIáØPOOaF<XÀBICEPSaDIZZYÒaSPEECH BÜOONaTHOUGHT BÜOONa×Fǹ_aç ŽSÒaMÍY BAGaCURR+CY ",
    "EXCHÎEaéDOĪRÂaCREDIT CŞaB$KNOTĂY+ÂhDOĪRÂhEUROÂhPĊDÂaMÍY&WÉSaÔRǨĻTR+DÐY+ÂaSE>aĢSON.ǋPUÛaBRI",
    "EFCASEaM%IDISCaFLOPPY DISKaOPTǃDISCaDVDaFIáFOLD_aġ FIáFOLD_aPAGĂƶd^FACÁUPaC.+DARaTEAR-OFF ",
    "C.+DARaCŞ ǼaÔRǨĻTR+DdĶTR+Daü ÔRTaCLIPBOŞaPUSHP%aRĊD PUSHP%aPAĢCLIPaSTRAĸRUL_aȒƉRUL_aBOOK=R",
    "K *BSa<DG_aNOTEBOOKi&DECOR>IŲCƃaCLOSÀBOOKaġ BOOKaGRE+ BOOKaBLU^BOOKaORÎ^BOOKaBOOKSaNAM^BAD",
    "GEaSCROLLaMEMOaTE<PHÙRECEIŵaPAG_aFAX =CH%EaS>ELLIT^$ĮNAaPUBLÕADDREưLOUDSPEAK_aëEŻMEGčÍaOUT",
    "BOX TRAYa%BOX TRAYaPŀAGEaE-=ILÒa%đÁ+VELOPEa+VELOPĂĶďŒaCLOSÀ=ILBOX&ǹ_ÀF~GmRAISÀF~Gaġ =ILBOX",
    "&RAISÀF~Gjǹ_ÀF~GaPOSTBOXeÆĞNaNEWSPAĢaMOBIáPHÍi&Ő > ĒaVIBRì MODEaMOBIáPHÙOFFaNO MOBIáPHÍSa$",
    "ĮNA&üSaCAM_Af&F~SHaVIDEO CAM_AaTE<VISŖaRADIOaVIDEOCASSETTEaFILM ĭJECTORaPOR*B<,ÛEObRAYþBEA",
    "DSaTWISTÀŐSaCǁWIS^ĵÌíġ űÅSo&øD Ùƃ~YgĶÌĻġ űÅSa$ňǁWIS^ĶÌĻġ űÅSaėBàNESSÒaŬBàNESSÒaSPEAK_&C$CE",
    "ĪĳȆgg&Í,ĊD WAVEhƋ,ĊD WAVESaB>ÛYaE<CTRÕPLUGaǢ÷=GNIFYÁG~SSaǶ÷=GNIFYÁG~SSaǁ&%K P+aCLOSÀǁ&KEYa",
    "KEYaǁaġ ǁaBELLdǍC$CEĪĳȆbOOK=RKaL%KÒaRADIO BUTTONaBŀ&íďŒa+ƱíďŒaƫEXCóŗ&ÃÄďŒaSOƫŐãań&ĻďŒaNO Ù",
    "UNDþĈE+ÒaKEYCAPųa%PUTŢĝ ƨǮ<TÛSiß<TÛShNƿSgÒSg ƨ <TÛSaFIREaE<CTRÕTORCHaWR+CHa!MM_aNUTÐBOLTaH",
    "OCHOaPISTOLaMICROSCOPEaTE<SCOPEaCRYSTÆBÜaSIX ŽEDƙ&ðöaJAP$ESEŢĝ BEG%N_aTRIDǲEMB<MaĜǓBUTTONa",
    "ƸǓBUTTONaŚ REDȈcBLUEȈcORÎ^ƼcBLU^ƼaSMÜ ORÎ^ƼeBLU^ƼaUP-÷RÀĕaƈ-÷RÀĕaUP-ŽÉßRÀĕaƈ-ŽÉßRÀĕaēàĄDOW",
    "ÀƸȈaĿàĄDOWÀƸȈaøDƳ POMMEEaǊ POMMEĂȄ-øĬhEaNOTCHÀĒõMIø&ÿöSgàõMIø&ÿöSaSYMBOL ĝÏS ÔPÛa×ƨƳaéƨƳaC",
    "ELňƳaOMÒaDOŲØPEACEaKAABAaMOSQUEaSYNAGOGUEaM+ORAÞNǴBR$ëSaBOWL ØHYGIEIAaCǁ ò ÙOCǁfæOCǁfÿOCǁf",
    "ŭOCǁfťOCǁeż OCǁeğ OCǁe EĸOCǁfNǴOCǁeų OCǁe E<V+ OCǁfTWELŲOCǁfÍ-ŹTYfČ-ŹTYfƋ-ŹTYfƀ-ŹTYfǑ-ŹTYe",
    "ż-ŹTYeğ-ŹTYe Ĉ-ŹTYfŶ-ŹTYeų-ŹTYe E<V+-ŹTYfTWELVE-ŹTYaà,PEAK_h&Í,ĊD WAVEiƋ,ĊD WAVESaBULLĞNg&",
    "SĊD WAVESaǀÁBELLaBOOKaCä<aM$TELPIEC^CǁaĜ,KULLÐǊBÍSaNO PIRACYaHO<aMÓşBUS%ESƬUIT <VIT>ÉaS<UT",
    "H OR,PYaDARK,Ń~SSESaSPID_eþWEBaJOYSňKaMÓD$CÉaÃHÌTE<PHÙRECEIŵaTE<PHÙRECEIŵ&PAGEaÄHÌTE<PHÙRE",
    "CEIŵa×TOUCHTÙTE<PHÍaîTOUCHTÙTE<PHÍaTE<PHÙÖń ØMODEMaCóSHELL MOBIáPHÍaBŀ Ø+VELOPEaS*MPÀ+VELO",
    "PEa+VELOPĂǘNÉaFLYÁ+VELOPEaP+ĲS*MPÀ+VELOPEaL%KÀPAĢCLIPSaîPUSHP%aēÃP+CILcBÜŽ P+cFĊ*şP+cPA%TB",
    "RUSHcCRAYONaÃWRITÁHäaŏOK HäÂaRAISÀH$ƱFÉ_ƬP~YEDaŰRAISÀH$ƱFÉ_ƬP~YEDbłS UPÂeƈÂbVICTORY HäbH$Ʊ",
    "ðFÉþEXĮDEDaRAISÀH$ƱĚT BETWE+ȋÌŻFÉ_Sa×ć÷ÃHÌǼaSIDEWAYS ×Ã÷ǼkÄ÷ǼjîÃ÷ǼkÄ÷ǼaîÃ÷BŀHÌǼbÄ÷BŀHÌǼaSI",
    "DEWAYS ×ô÷Ǽkć÷Ǽjîô÷Ǽkć÷Ǽaîô÷BŀHÌǼbć÷BŀHÌǼbǐTaDESKńǋPUÛaKEYBOŞÐMOUSEaÿNEČRKEDǋPUÛSaPR%ÛbOCK",
    "ET C.CUL>ORaîHŞŪLL FLOPPY DISKa×HŞŪLL FLOPPY DISKaSOFTŪLL FLOPPY DISKa*P^CARTRIDGEaWIRÀKEY",
    "BOŞaÙBUTTÖMOUSEaæBUTTÖMOUSEaÿBUTTÖMOUSEaTRŀBÜaıĢSON.ǋPUÛaHŞ DISKaSCRE+aPR%ơICONaFAX ICONaO",
    "PTǃDISC ICONaDOCUM+ǨTEXTlÐPICTUREhPICTUREaFRAMĂPICTUREfTI<SfÓXaîFOLD_aFOLD_aġ FOLD_aCŞ ƄDI",
    "VID_SdFIáBOXaFIáCAīETaEMPĦNOTEh^PAGEkDaNOTEd^PAGEgDaEMPĦDOCUMâePAGEiSaDOCUMâaPAGEeSaWASTEB",
    "ASKETaSPIRÆNOT^PADfC.+DAR PADaDESKń W%DOWaM%IMIZEa=XIMIZEaƃ~PaCǁWIS^àÐĒõMIűÅSb$CEĪĳ Xa%CRE",
    "AS^FONTĽZEÒaDECREAS^FONTĽZEÒađPRESSŖaıKEYaROL<D-ôNEWSPAĢaPAGĂøD TEXTaSTOCK ÔRTaDAGGþKNIFEa",
    "LIPSaSPEAKÁHEAD %ĽLHOUETTEaÿRAYSãfĬf ĒgàaĒ,PEECH BUBB<aà,PEECH BUBB<aČ,PEECH BUBB<SaƋ,PEEC",
    "H BUBB<SaÃTHOUGHT BUBB<aÄTHOUGHT BUBB<aÃÎþBUBB<aÄÎþBUBB<aMOOD BUBB<aǘNÁMOOD BUBB<haBÜOT BO",
    "X&BÜOTe,ǚXe BOX&SǚXgıSǚXgOX&BıSǚXaŮëCKÏaBÜOT BOX&BıëCKaWORLD =PaMĊT FUJIaTOKYO TOW_aST>U^Ø",
    "LIB_TYbILHOUETT^ØJAP$aMOYAIaGR%NÁòg&SMILÁEYESaò&TEARS ØJOYaSMILÁò&ġ MOUTHkǆä,MILÁEYESlÌCıS",
    "WE>mTIGHTLY-CLOSÀEYEShH.OhĞNSaW%KÁòaSMILÁò&SMILÁEYESaò,AVOUŻDELICIOUS FOODaRELIEVÀòaSMILÁò",
    "&ǐT-S!PÀEYEShSŃ~SSESdRKÁòaNEUTRÆòaEXPRESSŖ<ưòaUNAMUSÀòaò&CıSWE>aP+SIŲòaCONFUSÀòeĊDÀòaKISSÁ",
    "òaò THROWÁA KISSaKISSÁò&SMILÁEYEShCLOSÀEYESaò&STUCK-OUT TONGUEsÐW%KÁEYEtTIGHTLY-CLOSÀEYESa",
    "DISAPŽÀòaWORRIÀòaÎRY òaPOUTÁòaCRYÁòaĢSEVEŻòaò&LOOK ØTRIUMPHaDISAPŽÀBUT RELIEVÀòaFROWNÁò&ġ ",
    "MOUTHaÎUĆÀòaFEARFUL òaWEARY òaS<EPY òaTIRÀòaGRI=CÁòaLOUDLY CRYÁòaò&ġ MOUTHaHUSHÀòaò&ġ MǆÌC",
    "ıSWE>b,CREAMÁşFEARaASTONĆÀòaFLUSHÀòaS<EPÁòaDIZZY òaò ƴOUT MOUTHb&MEDǃ=SKaGR%NƵ> ò&SMILÁEYE",
    "SaC> ò&TEARS ØJOYaSMILƵ> ò&ġ MOUTHjǐT-S!PÀEYESaC> ò&WRY,MI<aKISSƵ> ò&CLOSÀEYESaPOUTƵ> òaCR",
    "YƵ> òaWEARY C> òaSǘLY FROWNÁòe,MILÁòaUPSIDE-ćòaò&ROLLÁEYEScNO GOOD GESTUREcOK GESTUREaĢSÖB",
    "OWÁDEEPLYaSEE-NO-EVIL MONKEYaǐ-NO-EVIL MONKEYaSPEAK-NO-EVIL MONKEYa!PPY ĢSÖRAISÁÙHäaĢSÖRAI",
    "SÁBOTH HäS şCE<BRìdFROWNÉcƫPOUTÁòdFOLDÀHäSaǖǇ÷<AFaSǆǇ÷<AFaǖƜ÷<AFaSǆƜ÷<AFaŏǖǇ÷<AFbSǆǇ÷<AFbǖ",
    "Ɯ÷<AFbSǆƜ÷<AFaǖǇ÷VǴ<AFaSǆǇ÷VǴ<AFaǖƜ÷VǴ<AFaSǆƜ÷VǴ<AFaéǖǇ÷VǴ<AFaǗ,ǆǇ÷VǴ<AFaéǖƜ÷VǴ<AFaǗ,ǆƜ÷VǴ",
    "<AFaǖǇ÷BUDaSǆǇ÷BUDaǖƜ÷BUDaSǆƜ÷BUDaéǖǇ÷BUDaǗ,ǆǇ÷BUDaéǖƜ÷BUDaǗ,ǆƜ÷BUDaHOLėQUILTǓƺl %ȏģaSOLID",
    " QUILTǓƺn %ȏģaíROCKETaĻROCKETaĵROCKETaĶROCKETaSǚLIG>ƹET ƺaǗ,ǚLIG>ƹET ƺaLIG>ƹġ ET ƺaéLIG>ƹġ",
    " ET ƺbAMĢSÌƺaSWASH AMĢSÌƺb$S-S_IF éÈŏđ= QUOTŗ ƺkĘǋ= QUOTŗ ƺkėĘǋ= QUOTŗ ƺaé%ÛROBÎ ƺaS$S-S_I",
    "F %ÛROBÎ ƺaǗ,$S-S_IF %ÛROBÎ ƺaŵY Ǘ,OLIDUSdéȊSƭOLIDUSaëCKþBOŞaȊS^ëCKþBOŞaROCKETaHELICOPÛaST",
    "EAM LOđOTIVEaRAILWAY CARaHIGH-SPEÀTRA%n&BUL<T NOSEaTRA%aMETROaŮRAILaS*ĳaTRAMe CARaBUSaONđÁ",
    "BUSaTROL<YBUSaBUƬńaM%IBUSaAMBUL$CEaFIR^+G%EaPOLIC^CARaONđÁPOLIC^CARa*XIaONđÁ*XIaAUTOMOBI<a",
    "ONđÁAUTOMOBI<aRECREìÆVEHIC<aDELIŵY TRUCKaARňUL>ÀLORRYaTRACTORaMONORAILbĊ*şRAILWAYaSUSP+SIÖ",
    "RAILWAYaMĊ*şCAB<WAYaA_IÆTRAMWAYaSHIPaROWBO>aSPEEDBO>aƟTRAFFÕǘaĀTRAFFÕǘaCONSTRUŜÂaPOLIC^CAR",
    "S REVOLVÁǘaȒƉF~G ÖPOSTaDOORaNO âRYÂaSMOKÉÒaNO,MOKÉÒaPUT ƦþşITS P~CEÒaDO ǟƦ_ÒaPO*BáWǛÒaNON-",
    "PO*BáWǛÒaBICYC<aNO BICYC<SaBICYCLISTaMĊ*şBICYCLISTaPEDESTRI$aNO PEDESTRI$SaCHILDR+ƳÉaM+SÒa",
    "WOM+SÒaRESTROOMaBABYÒaTOI<TaWAơCLOSETaSHOW_aB>HdTUBaPASSPORT CONTROLaCUSTOMSaBAGGAG^C~IMaÃ",
    "LUGGAGEaĕ&RĊDÀCORN_SaĭHIBITEDÂaøD %ƚì,OURCEaBOYSÒaGIRLSÒaCOUCHÐóPaS<EPÁACđMODìbHOPPÁBAGSaB",
    "ELLHOP BELLcDaP~C^ØWORSHIPaOC*GON.ÂaSHOPPÁTROL<YbTUPAaPAGODAaH%DU TEMP<bUTaE<V>OR"]),
  (0x1f6dd, [
    "P~YGRĊD,LIDEaWHEELaŻBUOYa!MM_ÐWR+CHaSHIELDaOIL DRUMaMOTORWAYaRAILWAY TRŀaMOTOR BO>aUP-÷MIL",
    "I*RY AIRƆEeAIRƆEdŽÉßAIRƆEaSMÜ AIRƆEaNORTHEAST-÷AIRƆEaAIRƆ^DEĚTUREfARRIVÉ"]),
  (0x1f6f0, [
    "S>ELLITEaONđÁFIR^+G%EaDIESEL LOđOTIVEaPASS+G_,HIPaSCOOÛaMOTOR,COOÛaC$OEaS<DaFLYÉ,AUC_aSK>E",
    "BOŞaAUĨRICKS!WaPICKôTRUCKaROLL_,K>E"]),
  (0x1f700, [
    ".ëMIC.Ţĝ QU%TESS+CEjAIRjFIREjEARTHjWǛjAQUAĝTISn REGIAt-2oVI*Es-2jV%EGARp-2q3i,ULFURi PHILO",
    "SOPH_ƬULFURiȏ,ULFURi M_CURYƒLIěEu-2v3jC%NAüi,.Ti NITREjVITRIOLq-2jROCK,.Tq-2jGOLDiĽLŵi IRÖ",
    "OREp-2jCROCUS ØIRONjREGULUS ØIRONjCOPPþOREjIRON-COPPþOREiƒLIě^ØCOPĢi CROCUS ØCOPĢv-2kOPPþ$",
    "TIMONI>Ei,.T ØCOPPþ$TIMONI>EiƒLIě^OF,.T ØCOPĢi ŵDIGRISjTşOREj<AD OREj$TIMONY OREiƒLIě^Ø$TI",
    "MONYi,.T Ø$TIMONYiƒLIě^OF,.T Ø$TIMONYi V%EGAR Ø$TIMONYjREGULUS Ø$TIMONYz-2qq-2r3r4j.K.In-2",
    "j=RCASITEi,.-AMMONIACi ARS+ICjRE.GARp-2jAURIPIGMâjBISMUTH OREj*R*Rn-2jQUICK LIMEjBORAXo-2p",
    "3j.UMjOILi,PIRITi T%CTUREjGUMjWAXjPOWD_jC.XjTUTTYjCAPUT MORTUUMi,CEPơØJOVEi CADUCEUSjTRIDâ",
    "iƙRÀTRIDâi LODESTÍi,OAPi UR%EjĞS^DŃjASHESjPOT ASHESjBRICKjPOWD_ÀBRICKjAȅGAMiřR>UM,ǱřR>UMu-",
    "2iƒLI=ĳi PRECIPIT>EjDISTILLmSOLVEr-2jPURIFYlTREFAŜjCRUCIB<q-2r3r4r5jĖMBICjB>H Ø=RYoVAPOURS",
    "jRETORTjHOURjNIGHTjDAY-NIGHTjMONTHjāDRAMkĊCE"]),
  (0x1f780, [
    "îǢ÷ISOSCE<S ÄĕbUP-÷ISOSCE<S ÄĕbǶ÷ISOSCE<S Äĕbƈ-÷ISOSCE<S ÄĕaĜ,ǘLYœȈaħ BıƸȈaBıƸȈaéƸȈaŵY éƸȈ",
    "aEXTREMELY éƸȈa×űCON*%ÉȏœȈaRĊD *RGETaîT%YģaĜ,ǘLYœģaŮƸģaħ ƸģaBıƸģaéƸģaŵY éƸģaEXTREMELY éƸģa",
    "ƸǓCON*%ÁîŵYœģjħģaSŕ^*RGETaîT%Y ƼbŵYßƼbħßƼa×Ƽ CON*%ÁîŵYßƼkħ ƼaƼ *RGETaîT%Y LOZ+GEbŵYßLOZ+GE",
    "bħßLOZ+GEa×LOZ+G^CON*%ÉȏßLOZ+GEaTHşǫƳaŮǫƳaħ ǫƳaBıǫƳaŵY BıǫƳdéǫƳaEXTREMELY éǫƳaTH%,.TIREaǘ,",
    ".TIREaħ,.TIREaBıS.TIREaǗ,.TIREaŵY Ǘ,.TIREaEXTREMELY Ǘ,.TIREaŮǑ,POKÀǙaħ Ǒ,POKÀǙaBıǑ,POKÀǙaé",
    "Ǒ,POKÀǙaŵY éǑ,POKÀǙaEXTREMELY éǑ,POKÀǙaǘż,POKÀǙaħż,POKÀǙaBOLDż,POKÀǙaǗż,POKÀǙaŵY Ǘż,POKÀǙa",
    "EXTREMELY Ǘż,POKÀǙaŮĈ,POKÀǙaħ Ĉ,POKÀǙaBıĈ,POKÀǙaéĈ,POKÀǙaŵY éĈ,POKÀǙaŮÿŽEDȏƙaħ ÿŽEDȏƙaÿŽED",
    "ȏƙaħ ÿŽÀP%WHEELƙaŮŭŽEDȏƙaħ ŭŽEDȏƙaŭŽEDȏƙaħ ŭŽÀP%WHEELƙaȊS^ŮŭŽÀP%WHEELƙaŮťŽEDȏƙaéťŽEDȏƙaħż ",
    "ŽEDȏƙaǗż ŽEDȏƙaSIX ŽÀP%WHEELƙaħ EĸŽEDȏƙaéEĸŽEDȏƙaŵY éEĸŽEDȏƙaéEĸŽÀP%WHEELƙaŮTWELŲŽEDȏƙaéTW",
    "ELŲŽEDȏƙhÀP%WHEELƙaøD ĕaNEG>IVEȈD ĕaøDģaNEG>IVEȈDģ"]),
  (0x1f7e0, ["Ś ORÎEȈcYELǹȈcGRE+ȈcPURP<ȈcBROWNȈcREDģcBLUEģcORÎEģcYELǹģcGRE+ģcPURP<ģcBROWNģ"]),
  (0x1f7f0, ["éƽƪ"]),
  (0x1f800, [
    "íďƴßĕ šaĻďƴßĕ šaŐ ƴßĕ šaĶďƴßĕ šaíŇħ ĕ šaĻŇħ ĕ šaŐ&ħ ĕ šaĶŇħ ĕ šaíŇŚ ĕ šaĻŇŚ ĕ šaŐ&Ś ĕ šaĶŇ",
    "Ś ĕ š"]),
  (0x1f810, [
    "íďƴœȉILǛÆšaĻďƴœȉILǛÆšaŐ ƴœȉILǛÆšaĶďƴœȉILǛÆšaíŇEQUILǛÆšaĻŇEQUILǛÆšaŐ&EQUILǛÆšaĶŇEQUILǛÆšaéí",
    "ŇEQUILǛÆšbĻŇEQUILǛÆšbŐ&EQUILǛÆšbĶŇEQUILǛÆšbíŇŚȉILǛÆšbĻŇŚȉILǛÆšbŐ&ŚȉILǛÆšbĶŇŚȉILǛÆšaíŴŇNÅĄF",
    "TaĻŴŇNÅĄFTaĵŴŇNÅĄFTaĶŴŇNÅĄFTaíŴŇħĄFTaĻŴŇħĄFTaĵŴŇħĄFTaĶŴŇħĄFTaíŴŇBıS!FTaĻŴŇBıS!FTaĵŴŇBıS!FT",
    "aĶŴŇBıS!FTaíŴŇǗĄFTaĻŴŇǗĄFTaĵŴŇǗĄFTaĶŴŇǗĄFTaíŴŇŵY ǗĄFTaĻŴŇŵY ǗĄFTaĵŴŇŵY ǗĄFTaĶŴŇŵY ǗĄFTaíFÉ",
    "_-POST ÅaĻFÉ_-POST ÅaĵFÉ_-POST ÅaĶFÉ_-POST ÅaíSŕÀÅaĻSŕÀÅaĵSŕÀÅaĶSŕÀÅaíđPRESSÀÅaĻđPRESSÀÅaĵ",
    "đPRESSÀÅaĶđPRESSÀÅaíǗǋPRESSÀÅaĻǗǋPRESSÀÅaĵǗǋPRESSÀÅaĶǗǋPRESSÀÅaíéÅaĻéÅaĵéÅaĶéÅ"]),
  (0x1f850, [
    "íS$S-S_IF ÅaĻS$S-S_IF ÅaĵS$S-S_IF ÅaĶS$S-S_IF ÅaǖǇS$S-S_IF ÅbƜS$S-S_IF ÅaSǆƜS$S-S_IF ÅcǇS$",
    "S-S_IF ÅaÃà,$S-S_IF Åaôƈ,$S-S_IF Å"]),
  (0x1f860, [
    "WIDEȔíŮƾÅfĻŮƾÅfĵŮƾÅfĶŮƾÅfǖǇŮƾÅgƜŮƾÅfSǆƜŮƾÅhǇŮƾÅfíƾÅfĻƾÅfĵƾÅfĶƾÅfǖǇƾÅgƜƾÅfSǆƜƾÅhǇƾÅfíħ ƾÅfĻ",
    "ħ ƾÅfĵħ ƾÅfĶħ ƾÅfǖǇħ ƾÅgƜħ ƾÅfSǆƜħ ƾÅhǇħ ƾÅfíéƾÅfĻéƾÅfĵéƾÅfĶéƾÅfǖǇéƾÅgƜéƾÅfSǆƜéƾÅhǇéƾÅfíŵY",
    " éƾÅfĻŵY éƾÅfĵŵY éƾÅfĶŵY éƾÅfǖǇŵY éƾÅgƜŵY éƾÅfSǆƜŵY éƾÅhǇŵY éƾÅ"]),
  (0x1f890, [
    "íĕ šaĻĕ šaĵĕ šaĶĕ šaí×ďƴşĕ šaĻ×ďƴşĕ šaĵ×ďƴşĕ šaĶ×ďƴşĕ šaíŇNOTCHÀŅaĻŇNOTCHÀŅaŐ&NOTCHÀŅaĶŇNO",
    "TCHÀŅaéÅĄFT WIDTH ÍmæŹDSmÙȄnŹDaíBOTTOM-S!DÀ×ÅaĵBOTTOMĄDÀ×ÅaíńĄDÀ×ÅaĵńĄDÀ×ÅaíǢS!DÀ×ÅaĵǶS!DÀ",
    "×ÅaíǶS!DÀ×ÅaĵǢS!DÀ×ÅaíBŀ-TILTEDĄDOWÀ×ÅaĵBŀ-TILTEDĄDOWÀ×ÅaíFRONT-TILTEDĄDOWÀ×ÅaĵFRONT-TILTE",
    "DĄDOWÀ×Åa×ÅĄFT WIDTH ÍmæŹDS"]),
  (0x1f8b0, ["ď÷ĻTH+ ǖWESTcĵTH+ CURVÉ,ǆWEST"]),
  (0x1f900, [
    "øDƳ ƚEĂŭöShæöSgEaÃȄȈ&ŭöSeÿöSeæöSeödaƈWŞ FACÁăiNOTCHÀăiă&öiNOTCHÀă&öaP%CHÀFÉ_Sa×ǐTaBROWN ǐT",
    "aP%CHÁHäaZIPĢ-MǆòaMÍY-Mǆòaò&TH_MOMEÛaN_D òaTH%KÁòaò&HEAD-BäAGEaROBOT òaHUGGÁòaSIGN ØTH^ĞNS",
    "aCÜ M^HäaRAISÀBŀ ØHäaǢFACÁFISTaǶFACÁFISTaHäS!KEb$ƱƄäȋFÉ_SƳEDaI LOŲYOU HäÂaò&COWBOY H>aCǹN ",
    "òaNAUSE>ÀòaROLLÁÖTH^FLOOR ~UGǧaDROOLÁòaLYÁòaò P.MaSNEEZÁòaò&ÙEYEBROW RAISEDaGR%NÁò&S*R EYE",
    "ShÙŚÐÍßEYEaò&FÉþCƃƵLOSÀLIPSaS_IOUS ò ƴÒS CƃÁMOUTHbMILÁò&SMILÁEYESÐHÌCƃÁMOUTHaò&ġ MǆVOMITÉa",
    "SHOCKÀò&EXPLODÁHEADaPREGN$T WOM$aBREAST-FEEDÉaP.MS ôTOGETH_aSELFIEaPR%CEaMÓşTUXEDObOTHþCHR",
    "IST=SaSHRUGaĢSÖDOƵARTWHEELaJUGGLÉaF+C_aMOD_N Pâ>HǄaWRESTL_SbAơPOLOaHäBÜaDIVÁ=SKaWILTÀFǹ_aD",
    "RUM&DRUMSňKSaCL%KÁG~SSESaTUMBLþG~SSaSPOONaGOÆNETaRIF<aFIRST P~C^MED.aSECOND P~C^MED.aŹD P~",
    "C^MED.aBOXÁGLOVEa=RTIÆARTS UNIƚaƶÉřÍa~ǊƭňKÐBÜaSOFTBÜaFLYÁDISCaCROISS$TaAVOCADOaCUCƿaBACONa",
    "POT>OaCARROTaBAGUETT^BREADaGRE+,A~DaSH.ėPÓØFOODbTUFFÀFL>BREADaEGGaG~ưØMILKaPE$UTSaKIWIFRUI",
    "TaP$CAKESaDUMPLÉaĝTUN^COOKIEa*KEOUT BOXaCHOPSňKSaBOWǍSPOONaCôȗTRAWbOCONUTaBROCCOLIaPIEbRET",
    "ZELaCUT ØME>aSäWICHaC$NÀFOODa<AFY GRE+aMÎObOÖCAKEaBAGELaSMILÁò&SMILÁEYESÐÿǐTSaYAWNÁòaSMILÁ",
    "ò&TEARaò&ĚĦĞNÐĚĦH>cUNEV+ EYESÐWAVY MOUTHaƃHE>ÀòaFREEZÁòaN%JAaDISGUISÀòaò HOLDÁBŀ TEARSb&P<",
    "ADÁEYESaSARIa~B CO>aGOGG<SaHIKÁBOOTaFL>,HOEaCRABaLIÖòaSCORPŖaTURKEYaUNICORN òaEAG<aDUCKaB>",
    "aS!RKaOWLaFOX òaBUTÛFLYaDE_aGORIĪaLIZŞaRH%OC_OSaSHRIMPbQUIDaGIRAFF^òaZEBRA òaHEDGEHOGaSAUR",
    "OPODaT-REXaCRICKETaKAĔROOaĪ=aPEACOCKaHIPPOPO*MUSaĚROTaRACCOONaLOBSÛaMOSQUITObICROBEaBADG_a",
    "SW$a=MMOTHaDODOaSLOTHaOTÛbRÎUT$aSKUNKaFóÉOaOYSÛaBEAŵbISONaSE.aGUID^DOGaĭBƵ$EaEMOJIǋPONǲRÀ!",
    "IRkƶY !IRkB.Dk×!IRaBÍa<GaFOOTaTOOTHaSǱH_OcVIĪ%bAFEĦVESTaEAR&ǐÁAIDaMOTORIZÀWHEELÔIRb$UÆWHEE",
    "LÔIRbECH$ǃARMg<GaëES^WEDGEaCUPCAKEaS.TĄK_aBEŵAG^BOXaGARLICaONŖaFA~FELaWAFF<aBUTÛaě^DR%KaIC",
    "^CUBEaBUBBáTEAaTROLLaSTäÁĢSONaKNEELÁĢSONaDEAF ĢSONaò&MONOC<aADULTaCHILDaOLDþADULTaBEŞÀĢSON",
    "aĢSƫHEADSCARFcÖ%řEAMY ROOMdCLIMBÉdşLOTUS POSIĳa=GEaFAIRYaVAMPIREaM_ĢSONaELFaG+IEaZOMBIEaBR",
    "A%aORÎ^ǐTaBILLÀCAPaSCARFaGLOVESaCO>aSOCKSaRÀGIFT +VELOPEaFIRECRŀ_aJIGSAW PUZZáPIECEaTEST T",
    "UBEaPETRI DĆaDNA ÈHELIXađPASSaABACUSaFIR^EXTÉUĆ_aTOOLBOXaBRICKa=GNETaLUGGAGEbOĳ BOTT<aSPOO",
    "L ØTHREADaBÜ ØYARNaSAFEĦP%aTEDDY BEARaBROOMbASKETaROLL ØPAĢaü OF,OAPaSPONGEaRECEIPTaNAZAR ",
    "AMU<TbEUTRÆëưKÉiQUE+iROOKiBĆOPiKNIGHTiPAWNa×ëưKNĸƐĝTY-ťǂaîëưKNĸƐĝTY-ťǂaNEUTRÆëưKNĸƐĝTY-ťǂa",
    "×ëưKÁƐŶĦǂdQUE+ ƐŶĦǂdROOK ƐŶĦǂdBĆOP ƐŶĦǂdKNĸƐŶĦǂdPAWN ƐŶĦǂaîëưKÁƐŶĦǂdQUE+ ƐŶĦǂdROOK ƐŶĦǂdBĆ",
    "OP ƐŶĦǂdKNĸƐŶĦǂdPAWN ƐŶĦǂaNEUTRÆëưKÁƐŶĦǂiQUE+ ƐŶĦǂiROOK ƐŶĦǂiBĆOP ƐŶĦǂiKNĸƐŶĦǂiPAWN ƐŶĦǂa×",
    "ëưKNĸƐÙç ŹTY-ťǂaîëưKNĸƐÙç ŹTY-ťǂaNEUTRÆëưKNĸƐÙç ŹTY-ťǂa×ëưŏKÉeQUE+eROOKeBĆOPeKNIGHTePAWNaî",
    "ëưŏKÉeQUE+eROOKeBĆOPeKNIGHTePAWNaNEUTRÆëưŏKÉjQUE+jROOKjBĆOPjKNIGHTjPAWNa×ëưKNĸƐæç ǝ-ťǂaîëư",
    "KNĸƐæç ǝ-ťǂaNEUTRÆëưKNĸƐæç ǝ-ťǂa×ëưKÁƐæçğĦǂdQUE+ ƐæçğĦǂdROOK ƐæçğĦǂdBĆOP ƐæçğĦǂdKNĸƐæçğĦǂd",
    "PAWN ƐæçğĦǂaîëưKÁƐæçğĦǂdQUE+ ƐæçğĦǂdROOK ƐæçğĦǂdBĆOP ƐæçğĦǂdKNĸƐæçğĦǂdPAWN ƐæçğĦǂaNEUTRÆëư",
    "KÁƐæçğĦǂiQUE+ ƐæçğĦǂiROOK ƐæçğĦǂiBĆOP ƐæçğĦǂiKNĸƐæçğĦǂiPAWN ƐæçğĦǂa×ëưKNĸƐÿç FIFƎ ǂaîëưKNĸ",
    "Ɛÿç FIFƎ ǂaNEUTRÆëưKNĸƐÿç FIFƎ ǂa×ëSSȉIHOPĢaîëSSȉIHOPĢaNEUTRÆëSSȉIHOPĢa×ëSSȉIHOPPþƐŶĦǂaîëS",
    "SȉIHOPPþƐŶĦǂaNEUTRÆëSSȉIHOPPþƐŶĦǂa×ëưKNIGHT-QUE+kROOKkBĆOPaîëưKNIGHT-QUE+kROOKkBĆOP"]),
  (0x1fa60, [
    "XIÎQI RÀG+_.iMäAR%iE<PH$TiĞSEiÔRIOTiC$NONhED,OLDI_gîG+_.hMäAR%hE<PH$ThĞSEhÔRIOThC$NONfȏ,OL",
    "DI_"]),
  (0x1fa70, ["B.<T,HOESaÍ-PIECƭWIMSUITaBRIEFSaSĞTSaTHONG,ä."]),
  (0x1fa78, ["DROP ØBLOODaADHESIŲBäAGEaSTETHOSCOPEaX-RAYaCRUTCH"]),
  (0x1fa80, ["YO-YOaKITEaĚACHUTEaBOOM_Îa=GÕWäaP%A*aNESTÁDOLLS"]),
  (0x1fa90, [
    "ǀÀƆETaÔIRaRAZORaAXEaDIYA óPaB$JOaMILI*RY HELMETaACCORDŖaƇDRUMaCO%bARPâRY,AWaSCREWDRIŵa~DD_",
    "aăaMIRRORaW%DOWaPLŃ_aSEWÁNEED<aKNOTaBUCKETaMOUS^TRAPaTOOTHBRUSHaHEADSTÍaP~CŞaROCKaMIRROR B",
    "ÜaIDâIFICì CŞaėB>ÛYa!MSA"]),
  (0x1fab0, ["FLYaWORMaBEET<aCOCKROACHaPOTTÀƆTaWOODaFE>H_aLOTUSaCOR.aEMPĦNESTaNESǨEGGS"]),
  (0x1fac0, ["$>OMǃǐTaLŃSaPEOPáHUGGÉbREGN$T M$iĢSONaĢSƫCROWN"]),
  (0x1fad0, ["BLUEB_RIESbELL PEPĢaOLIVEaFL>BREADa*=<aFONDUEaTEAPOTaPOUŻLIQUIDaBE$SaJAR"]),
  (0x1fae0, ["MELTÁòaS.UTÁòaò&ġ EYESÐHÌȐMOUTHcPEEKÁEYEcǡÆMOUTHaǾÀǒòaBITÁLIPbUBB<S"]),
  (0x1faf0, ["H$ƱƄFÉ_ÐłƳEDaĵHäaíHäaP.M ćHäeôHäaƄ÷> TH^VIEW_aǐT HäS"]),
  (0x1fb00, [
    "ƗõXT$T-1h2gŌg-3h13h23gŌ3g-4h14h24gŌ4g-34h134h234gŌ34g-5h15h25gŌ5g-35h235gŌ35g-45h145h245gŌ",
    "45g-345h1345h2345gŌ345g-6h16h26gŌ6g-36h136h236gŌ36g-46h146gŌ46g-346h1346h2346gŌ346g-56h156",
    "h256gŌ56g-356h1356h2356gŌ356g-456h1456h2456gŌ456g-3456h13456h23456aēÃƗ ǡÆēðÃĨēñRElàgĿðÃĨēñ",
    "RElàhÃĨēñREbÄƗ ǡÆĿðÃĨĿñRElàgēðÃĨĿñRElàhÃĨĿñREhðÃĨĿðàhñR^ĨēðàhÃĨēðàhñR^ĨĿðàhÃĨĿðàhñR^ĨĿàbÃƗ",
    " ǡÆĿñR^ĨĿðàhÃĨĿðàhñR^ĨēðàhÃĨēðàhñR^ĨēàhðÃĨēðàaĿÄƗ ǡÆēðÃĨēñRElàgĿðÃĨēñRElàhÃĨēñREbÃƗ ǡÆĿðÃĨ",
    "ĿñRElàgēðÃĨĿñRElàhÃĨĿñREhðÃĨĿðàhñR^ĨēðàhÃĨēðàhñR^ĨĿðàhÃĨĿðàhñR^ĨĿàbÄƗ ǡÆĿñR^ĨĿðàhÃĨĿðàhñR^",
    "ĨēðàhÃĨēðàhñR^ĨēàhðÃĨēðàbÌàÐēȒƉÿŕÛS ƗaĒÐēÌÄȒƉÿŕÛS ƗaĿÌĒÐēȒƉÿŕÛS ƗaĒÐĿÌÄȒƉÿŕÛS ƗaÃȒƉÙŕơƗaĿȒ",
    "ƉÙŕơƗaÄȒƉÙŕơƗaēȒƉÙŕơƗaĀÙĈH Ɨ-2h3h4h5h6h7aƟÙĈH Ɨ-2h3h4h5h6h7aĒÐēÙĈH ƗcĿÙĈH ƗaàÐĿÙĈH ƗcēÙĈH ",
    "ƗaĿÌēÙĈH ƗaƟÙĈH Ɨ-1358aĿÙŕơƗbÿĈHS ƗbťĈHS ƗbÿŕÛS ƗaUPĢğ ĈHS ƗaÄÙŕơƗbÿĈHS ƗbťĈHS ƗbÿŕÛS Ɨaàğ",
    " ĈHS ƗaÃāħĄDEaÄāħĄDEaĿāħĄDEaēāħĄDEa%ŵS^ħĄDEaĿāƗÐēā%ŵS^ħĄDEc%ŵS^ħĄDEÐēāƗ"]),
  (0x1fb94, [
    "Ãā%ŵS^ħĄDEÐÄāƗaëCKþBOŞ FILLa%ŵS^ëCKþBOŞ FILLaéƟFILLaĿÃĨēÄFILLbÄĨēÃFILLbÌēȒƉāƗaĒÐÄȒƉāƗaĿÃȒƉ",
    "ħĄDEbÄȒƉħĄDEaēÄȒƉħĄDEbÃȒƉħĄDEaBOX DRAWÉS ŮǡÆĿñR^TOȋĒvàn.ȋÃĨēñREpÄĨēñREnÆĿñR^TOȋÃĨēñREvÄĨēñ",
    "REn.ȋÃĨēñR^TOȋàrĿñR^TOȋànÆĿñR^TOȋÃäȋÄĨēñREvÄäȋÃĨēñREwĨēñR^TOȋĒvÃĨēñR^TOȋàn.ȋÃĨĿñR^TOȋÄĨēñR",
    "EpÄĨĿñR^TOȋÃĨēñREnÆƼmƟņƮƛaš-S!PÀŽ_a%ŵS^ëCKÏaÃāRUNNÁM$aÄāRUNNÁM$a%ŵS^ĶŇTIP ĒWǩaíÅÐĿÌēÙĈH Ɨa",
    "ŐÐĿÌēÙĈH ƗaĶÅÐÄÙĈH ƗaĻÅÐÄÙĈH ƗaÃāFOLD_aÄāFOLD_aVOIDÀǫƳaÄġģD öaNEG>IŲǡ.ƳiȋÄĨēñREhÆƼa×Ǘ,.TIR",
    "ĂRĊDÀCORN_SaÃŹD ×Ä÷ǼaðŹD ×Ä÷ǼaÄŹD ×Ä÷ǼaNEG>IVEģD QUESĳÏaSňK FIGUREhƹņARMS RAISEDi<$ÁĒlàiņD",
    "RESSa×UP-÷ëVRON"]),
  (0x1fbf0, ["SEGMâÀŦgįgĤgĥgĴgŁgľgŉgŊgŋ"]),
  (0xe0001, ["LÎUAG^*G"]),
  (0xe0020, [
    "*G,PACEc EXCóŗdQUOTŗdNƿÂdDOĪRÂdĢñÂdAMĢSäePOSTROPHEdÃǏSISdÄǏSISdǙdǳÂcǋ=c HYPH+-M%USdǠc,OLID",
    "USc ŦdįdĤdĥdĴdŁdľdŉdŊdŋdCǤcõMICǤc ƠÂdƽƪdƣÂdQUESĳÏcǋM_CIÆ>c ƨƌe|BfCfDfEfFfGfHfIfJfKfLfMfNfO",
    "fPfQfReŷe|TfUfVfWfXfYfZdĒǓïdȊSƭOLIDUSdàǓïdƷACñdėķdũ ACñdƨƂe;BfCfDfEfFfGfHfIfJfKfLfMfNfOfPf",
    "QfReŎe;TfUfVfWfXfYfZdÃƶY ïdĀķdÄƶY ïdƍaC$CEL *G"])]

end Monomorph.Text.CharacterName
