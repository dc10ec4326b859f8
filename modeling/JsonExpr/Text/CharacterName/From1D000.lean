/-!
The names of the characters from 1D000 to 1EEF1.
-/

namespace JsonExpr.Text.CharacterName

def from1D000 : List String :=
  ["@1D000aBYZANTINE MUSICAL SYMBOL PSILIdDASEIAdPERISPOMENIdOXEIA EKFONITIKONeDIPLI",
    "dVAREIA EKFONITIKONeDIPLIdKATHISTIdSYRMATIKIdPARAKLITIKIdYPOKRISISdYPOKRISIS DIPLIdKREMASTI",
    "dAPESO EKFONITIKONdEXO ~dTELEIAdKENTIMATAdAPOSTROFOSdAPOSTROFOS DIPLIdSYNEVMAdTHITA",
    "dOLIGON ARCHAIONdGORGON ~dPSILONdCHAMILONdVATHYdISON ARCHAIONdKENTIMA ~dKENTIMATA ~dSAXIMATA",
    "dPARICHONdSTAVROS APODEXIAdOXEIAI ARCHAIONdVAREIAI ~dAPODERMA ~dAPOTHEMAdKLASMAdREVMA",
    "dPIASMA ARCHAIONdTINAGMAdANATRICHISMAdSEISMAdSYNAGMA ARCHAIONeMETA STAVROUdOYRANISMA ARCHAION",
    "dTHEMAdLEMOIdDYOdTRIAdTESSERAdKRATIMATAdAPESO EXO NEOdFTHORA ARCHAIONdIMIFTHORA",
    "dTROMIKON ARCHAIONdKATAVA TROMIKONdPELASTONdPSIFISTONdKONTEVMAdCHOREVMA ARCHAIONdRAPISMA",
    "dPARAKALESMA ARCHAIONdPARAKLITIKI ~dICHADINdNANAdPETASMAdKONTEVMA ALLOdTROMIKON ~",
    "dSTRAGGISMATAdGRONTHISMATAdISON NEOdOLIGON ~dOXEIA ~dPETASTIdKOUFISMAdPETASTOKOUFISMA",
    "dKRATIMOKOUFISMAdPELASTON NEOdKENTIMATA NEO ANOdKENTIMA ~dYPSILIdAPOSTROFOS NEO",
    "dAPOSTROFOI SYNDESMOS NEOdYPORROIdKRATIMOYPORROONdELAFRONdCHAMILIdMIKRON ISONdVAREIA NEO",
    "dPIASMA ~dPSIFISTON ~dOMALONdANTIKENOMAdLYGISMAdPARAKLITIKI NEOdPARAKALESMA ~",
    "dETERON PARAKALESMAdKYLISMAdANTIKENOKYLISMAdTROMIKON NEOdEKSTREPTONdSYNAGMA NEOdSYRMA",
    "dCHOREVMA NEOdEPEGERMAdSEISMA NEOdXIRON KLASMAdTROMIKOPSIFISTONdPSIFISTOLYGISMA",
    "dTROMIKOLYGISMAdTROMIKOPARAKALESMAdPSIFISTOPARAKALESMAdTROMIKOSYNAGMAdPSIFISTOSYNAGMA",
    "dGORGOSYNTHETONdARGOSYNTHETONdETERON ARGOSYNTHETONdOYRANISMA NEOdTHEMATISMOS ESOeEXO",
    "dTHEMA APLOUNdTHES KAI APOTHESdKATAVASMAdENDOFONONdYFEN KATOeANOdSTAVROSdKLASMA ANO",
    "dDIPLI ARCHAIONdKRATIMA ~eALLOeNEOdAPODERMA ~dAPLIdDIPLIdTRIPLIdTETRAPLIdKORONIS",
    "dLEIMMA ENOS CHRONOUeDYO CHRONONeTRION ~eTESSARON ~eIMISEOS CHRONOUdGORGON NEO ANO",
    "ePARESTIGMENON ARISTERAfDEXIAdDIGORGONdDIGORGON PARESTIGMENON ARISTERA KATOgANOfDEXIA",
    "dTRIGORGONdARGONdIMIDIARGONdDIARGONdAGOGI POLI ARGIeARGOTERIeARGIeMETRIAeMESIeGORGIeGORGOTERI",
    "ePOLI GORGIdMARTYRIA PROTOS ICHOSeALLI PROTOS ICHOSeDEYTEROS ICHOSeALLI DEYTEROS ICHOS",
    "eTRITOS ICHOSeTRIFONIASeTETARTOS ICHOSfLEGETOS ICHOSeLEGETOS ICHOSePLAGIOS ~",
    "dISAKIA TELOUS ICHIMATOSdAPOSTROFOI ~dFANEROSIS TETRAFONIASeMONOFONIASeDIFONIAS",
    "dMARTYRIA VARYS ICHOSePROTOVARYS ~ePLAGIOS TETARTOS ICHOSdGORTHMIKON N APLOUNfDIPLOUN",
    "dENARXIS KAI FTHORA VOUdIMIFONONdIMIFTHORONdFTHORA ARCHAION DEYTEROU ICHOUeDIATONIKI PAfNANA",
    "eNAOS ICHOSeDIATONIKI DIeSKLIRON DIATONON DIeDIATONIKI KEfZOfNI KATOgANO",
    "eMALAKON CHROMA DIFONIASgMONOFONIASdFHTORA SKLIRON CHROMA VASISdFTHORA SKLIRON CHROMA SYNAFI",
    "eNENANOdCHROA ZYGOSeKLITONeSPATHIdFTHORA I YFESIS TETARTIMORIONeENARMONIOS ANTIFONIA",
    "dYFESIS TRITIMORIONdDIESIS ~eTETARTIMORIONeAPLI DYO DODEKATAeMONOGRAMMOS TESSERA ~",
    "eDIGRAMMOS EX ~eTRIGRAMMOS OKTO ~dYFESIS APLI DYO ~eMONOGRAMMOS TESSERA ~eDIGRAMMOS EX ~",
    "eTRIGRAMMOS OKTO ~dGENIKI DIESISeYFESISdDIASTOLI APLI MIKRIfMEGALIeDIPLIeTHESEOSdSIMANSIS ~",
    "eTHESEOS DISIMOUfTRISIMOUfTETRASIMOUeARSEOSeARSEOS DISIMOUfTRISIMOUfTETRASIMOUdDIGRAMMA GG",
    "dDIFTOGGOS OUdSTIGMAdARKTIKO PAeVOUeGAeDIeKEeZOeNIdKENTIMATA NEO MESOdKENTIMA ~",
    "dKENTIMATA NEO KATOdKENTIMA ~dKLASMA KATOdGORGON NEO KATO@1D100aMUSICAL SYMBOL SINGLE BARLINE",
    "cDOUBLE ~cFINAL ~cREVERSE FINAL BARLINEcDASHED BARLINEcSHORT ~cLEFT REPEAT SIGNcRIGHT ~",
    "cREPEAT DOTScDAL SEGNOcDA CAPOcSEGNOcCODAcREPEATED FIGURE-1e2e3cFERMATAcFERMATA BELOW",
    "cBREATH MARKcCAESURAcBRACEcBRACKETcONE-LINE STAFFcTWO-~cTHREE-~cFOUR-~cFIVE-~cSIX-~",
    "dSTRING FRETBOARDcFOUR-~cG CLEFdCLEF OTTAVA ALTAfBASSAcC CLEFcF ~dCLEF OTTAVA ALTAfBASSA",
    "cDRUM CLEF-1e2@1D129cMULTIPLE MEASURE RESTcDOUBLE SHARPdFLATcFLAT UPdDOWNcNATURAL UPdDOWN",
    "cSHARP UPdDOWNcQUARTER TONE SHARPeFLATcCOMMON TIMEcCUT ~cOTTAVA ALTAdBASSAcQUINDICESIMA ALTA",
    "dBASSAcMULTI RESTcWHOLE ~cHALF ~cQUARTER ~cEIGHTH ~cSIXTEENTH ~cTHIRTY-SECOND REST",
    "cSIXTY-FOURTH ~cONE HUNDRED TWENTY-EIGHTH RESTcX NOTEHEADcPLUS ~cCIRCLE X NOTEHEAD",
    "cSQUARE NOTEHEAD WHITEeBLACKcTRIANGLE NOTEHEAD UP WHITEfBLACKeLEFT WHITEfBLACKeRIGHT WHITE",
    "fBLACKeDOWN WHITEfBLACKeUP RIGHT WHITEgBLACKcMOON NOTEHEAD WHITEeBLACK",
    "cTRIANGLE-ROUND NOTEHEAD DOWN WHITEgBLACKcPARENTHESIS NOTEHEADcVOID ~cNOTEHEAD BLACK",
    "cNULL NOTEHEADcCLUSTER NOTEHEAD WHITEeBLACKcBREVEcWHOLE NOTEcHALF ~cQUARTER ~cEIGHTH ~",
    "cSIXTEENTH ~cTHIRTY-SECOND NOTEcSIXTY-FOURTH ~cONE HUNDRED TWENTY-EIGHTH NOTEcCOMBINING STEM",
    "dSPRECHGESANG STEMdTREMOLO-1e2e3cFINGERED TREMOLO-1e2e3cCOMBINING AUGMENTATION DOTdFLAG-1e2e3",
    "e4e5cBEGIN BEAMcEND ~cBEGIN TIEcEND ~cBEGIN SLURcEND ~cBEGIN PHRASEcEND ~cCOMBINING ACCENT",
    "dSTACCATOdTENUTOdSTACCATISSIMOdMARCATOdMARCATO-STACCATOdACCENT-~dLOUREcARPEGGIATO UPdDOWN",
    "cCOMBINING DOITdRIPdFLIPdSMEARdBENDdDOUBLE TONGUEdTRIPLE ~cRINFORZANDOcSUBITOcZcPIANOcMEZZO",
    "cFORTEcCRESCENDOcDECRESCENDOcGRACE NOTE SLASHeNO SLASHcTRcTURNcINVERTED TURNcTURN SLASHdUP",
    "cORNAMENT STROKE-1e2e3e4e5e6e7e8e9e10e11cHAUPTSTIMMEcNEBENSTIMMEcEND OF STIMMEcDEGREE SLASH",
    "cCOMBINING DOWN BOWdUP ~dHARMONICdSNAP PIZZICATOcPEDAL MARKdUP MARKcHALF PEDAL ~cGLISSANDO UP",
    "dDOWNcWITH FINGERNAILScDAMPcDAMP ALLcMAXIMAcLONGAcBREVIScSEMIBREVIS WHITEdBLACKcMINIMA",
    "cMINIMA BLACKcSEMIMINIMA WHITEdBLACKcFUSA WHITEdBLACKcLONGA PERFECTA RESTdIMPERFECTA ~",
    "cBREVIS RESTcSEMIBREVIS ~cMINIMA ~cSEMIMINIMA ~cTEMPUS PERFECTUM CUM PROLATIONE PERFECTA",
    "gIMPERFECTAgPERFECTA DIMINUTION-1dIMPERFECTUM CUM PROLATIONE PERFECTAgIMPERFECTA",
    "gIMPERFECTA DIMINUTION-1i2i3cCROIXcGREGORIAN C CLEFdF ~cSQUARE BcVIRGAcPODATUScCLIVIS",
    "cSCANDICUScCLIMACUScTORCULUScPORRECTUScPORRECTUS FLEXUScSCANDICUS ~cTORCULUS RESUPINUS",
    "cPES SUBPUNCTIScKIEVAN C CLEFdEND OF PIECEdFINAL NOTEdRECITATIVE MARKdWHOLE NOTEdHALF ~",
    "dQUARTER NOTE STEM DOWNgUPdEIGHTH NOTE STEM DOWNgUPdFLAT SIGNcSORIcKORON",
    "@1D200aGREEK VOCAL NOTATION SYMBOL-1e2e3e4e5e6e7e8e9e10e11e12e13e14e15e16e17e18e19e20e21e22",
    "e23e24e50e51e52e53e54bINSTRUMENTAL NOTATION SYMBOL-1e2e4e5e7e8e11e12e13e14e17e18e19e23e24e25",
    "e26e27e29e30e32e36e37e38e39e40e42e43e45e47e48e49e50e51e52e53e54",
    "aCOMBINING GREEK MUSICAL TRISEMEdTETRASEMEdPENTASEMEaGREEK MUSICAL LEIMMA",
    "@1D2E0aMAYAN NUMERAL ZEROcONEcTWOcTHREEcFOURcFIVEcSIXcSEVENcEIGHTcNINEcTENcELEVENcTWELVE",
    "cTHIRTEENcFOURTEENcFIFTEENcSIXTEENcSEVENTEENcEIGHTEENcNINETEEN@1D300aMONOGRAM FOR EARTH",
    "aDIGRAM FOR HEAVENLY EARTHcHUMAN ~cEARTHLY HEAVENdHUMANcEARTHaTETRAGRAM FOR CENTRE",
    "cFULL CIRCLEcMIREDcBARRIERcKEEPING SMALLcCONTRARIETYcASCENTcOPPOSITIONcBRANCHING OUT",
    "cDEFECTIVENESS OR DISTORTIONcDIVERGENCEcYOUTHFULNESScINCREASEcPENETRATIONcREACHcCONTACT",
    "cHOLDING BACKcWAITINGcFOLLOWINGcADVANCEcRELEASEcRESISTANCEcEASEcJOYcCONTENTIONcENDEAVOUR",
    "cDUTIEScCHANGEcDECISIVENESScBOLD RESOLUTIONcPACKINGcLEGIONcCLOSENESScKINSHIPcGATHERING",
    "cSTRENGTHcPURITYcFULLNESScRESIDENCEcLAW OR MODELcRESPONSEcGOING TO MEETcENCOUNTERScSTOVE",
    "cGREATNESScENLARGEMENTcPATTERNcRITUALcFLIGHTcVASTNESS OR WASTINGcCONSTANCYcMEASUREcETERNITY",
    "cUNITYcDIMINISHMENTcCLOSED MOUTHcGUARDEDNESScGATHERING INcMASSINGcACCUMULATIONcEMBELLISHMENT",
    "cDOUBTcWATCHcSINKINGcINNERcDEPARTUREcDARKENINGcDIMMINGcEXHAUSTIONcSEVERANCEcSTOPPAGEcHARDNESS",
    "cCOMPLETIONcCLOSUREcFAILUREcAGGRAVATIONcCOMPLIANCEcON THE VERGEcDIFFICULTIEScLABOURING",
    "cFOSTERING@1D360aCOUNTING ROD UNIT DIGIT ONEeTWOeTHREEeFOUReFIVEeSIXeSEVENeEIGHTeNINE",
    "cTENS DIGIT ONEeTWOeTHREEeFOUReFIVEeSIXeSEVENeEIGHTeNINEaIDEOGRAPHIC TALLY MARK ONEdTWOdTHREE",
    "dFOURdFIVEaTALLY MARK ONEcFIVE@1D400aMATHEMATICAL BOLD CAPITAL AdBdCdDdEdFdGdHdIdJdKdLdMdNdO",
    "dPdQdRdSdTdUdVdWdXdYdZcSMALL AdBdCdDdEdFdGdHdIdJdKdLdMdNdOdPdQdRdSdTdUdVdWdXdYdZ",
    "bITALIC CAPITAL AdBdCdDdEdFdGdHdIdJdKdLdMdNdOdPdQdRdSdTdUdVdWdXdYdZcSMALL AdBdCdDdEdFdG",
    "@1D456dIdJdKdLdMdNdOdPdQdRdSdTdUdVdWdXdYdZbBOLD ITALIC CAPITAL AeBeCeDeEeFeGeHeIeJeKeLeMeNeO",
    "ePeQeReSeTeUeVeWeXeYeZdSMALL AeBeCeDeEeFeGeHeIeJeKeLeMeNeOePeQeReSeTeUeVeWeXeYeZ",
    "bSCRIPT CAPITAL A@1D49EdCdD@1D4A2dG@1D4A5dJdK@1D4A9dNdOdPdQ@1D4AEdSdTdUdVdWdXdYdZcSMALL AdBdC",
    "dD@1D4BBdF@1D4BDdHdIdJdKdLdMdN@1D4C5dPdQdRdSdTdUdVdWdXdYdZbBOLD SCRIPT CAPITAL AeBeCeDeEeFeG",
    "eHeIeJeKeLeMeNeOePeQeReSeTeUeVeWeXeYeZdSMALL AeBeCeDeEeFeGeHeIeJeKeLeMeNeOePeQeReSeTeUeVeWeX",
    "eYeZbFRAKTUR CAPITAL AdB@1D507dDdEdFdG@1D50DdJdKdLdMdNdOdPdQ@1D516dSdTdUdVdWdXdY",
    "@1D51EcSMALL AdBdCdDdEdFdGdHdIdJdKdLdMdNdOdPdQdRdSdTdUdVdWdXdYdZbDOUBLE-STRUCK CAPITAL AeB",
    "@1D53BeDeEeFeG@1D540eIeJeKeLeM@1D546eO@1D54AeSeTeUeVeWeXeY@1D552dSMALL AeBeCeDeEeFeGeHeIeJeK",
    "eLeMeNeOePeQeReSeTeUeVeWeXeYeZbBOLD FRAKTUR CAPITAL AeBeCeDeEeFeGeHeIeJeKeLeMeNeOePeQeReSeTeU",
    "eVeWeXeYeZdSMALL AeBeCeDeEeFeGeHeIeJeKeLeMeNeOePeQeReSeTeUeVeWeXeYeZbSANS-SERIF CAPITAL AeBeC",
    "eDeEeFeGeHeIeJeKeLeMeNeOePeQeReSeTeUeVeWeXeYeZdSMALL AeBeCeDeEeFeGeHeIeJeKeLeMeNeOePeQeReSeT",
    "eUeVeWeXeYeZdBOLD CAPITAL AfBfCfDfEfFfGfHfIfJfKfLfMfNfOfPfQfRfSfTfUfVfWfXfYfZeSMALL AfBfCfDfE",
    "fFfGfHfIfJfKfLfMfNfOfPfQfRfSfTfUfVfWfXfYfZdITALIC CAPITAL AfBfCfDfEfFfGfHfIfJfKfLfMfNfOfPfQfR",
    "fSfTfUfVfWfXfYfZeSMALL AfBfCfDfEfFfGfHfIfJfKfLfMfNfOfPfQfRfSfTfUfVfWfXfYfZ",
    "dBOLD ITALIC CAPITAL AgBgCgDgEgFgGgHgIgJgKgLgMgNgOgPgQgRgSgTgUgVgWgXgYgZfSMALL AgBgCgDgEgFgG",
    "gHgIgJgKgLgMgNgOgPgQgRgSgTgUgVgWgXgYgZbMONOSPACE CAPITAL AdBdCdDdEdFdGdHdIdJdKdLdMdNdOdPdQdR",
    "dSdTdUdVdWdXdYdZcSMALL AdBdCdDdEdFdGdHdIdJdKdLdMdNdOdPdQdRdSdTdUdVdWdXdYdZ",
    "bITALIC SMALL DOTLESS IeJ@1D6A8bBOLD CAPITAL ALPHAdBETAdGAMMAdDELTAdEPSILONdZETAdETAdTHETA",
    "dIOTAdKAPPAdLAMDAdMUdNUdXIdOMICRONdPIdRHOdTHETA SYMBOLdSIGMAdTAUdUPSILONdPHIdCHIdPSIdOMEGA",
    "cNABLAcSMALL ALPHAdBETAdGAMMAdDELTAdEPSILONdZETAdETAdTHETAdIOTAdKAPPAdLAMDAdMUdNUdXIdOMICRON",
    "dPIdRHOdFINAL SIGMAdSIGMAdTAUdUPSILONdPHIdCHIdPSIdOMEGAcPARTIAL DIFFERENTIALcEPSILON SYMBOL",
    "cTHETA ~cKAPPA ~cPHI ~cRHO ~cPI ~bITALIC CAPITAL ALPHAdBETAdGAMMAdDELTAdEPSILONdZETAdETA",
    "dTHETAdIOTAdKAPPAdLAMDAdMUdNUdXIdOMICRONdPIdRHOdTHETA SYMBOLdSIGMAdTAUdUPSILONdPHIdCHIdPSI",
    "dOMEGAcNABLAcSMALL ALPHAdBETAdGAMMAdDELTAdEPSILONdZETAdETAdTHETAdIOTAdKAPPAdLAMDAdMUdNUdXI",
    "dOMICRONdPIdRHOdFINAL SIGMAdSIGMAdTAUdUPSILONdPHIdCHIdPSIdOMEGAcPARTIAL DIFFERENTIAL",
    "cEPSILON SYMBOLcTHETA ~cKAPPA ~cPHI ~cRHO ~cPI ~bBOLD ITALIC CAPITAL ALPHAeBETAeGAMMAeDELTA",
    "eEPSILONeZETAeETAeTHETAeIOTAeKAPPAeLAMDAeMUeNUeXIeOMICRONePIeRHOeTHETA SYMBOLeSIGMAeTAU",
    "eUPSILONePHIeCHIePSIeOMEGAdNABLAdSMALL ALPHAeBETAeGAMMAeDELTAeEPSILONeZETAeETAeTHETAeIOTA",
    "eKAPPAeLAMDAeMUeNUeXIeOMICRONePIeRHOeFINAL SIGMAeSIGMAeTAUeUPSILONePHIeCHIePSIeOMEGA",
    "dPARTIAL DIFFERENTIALdEPSILON SYMBOLdTHETA ~dKAPPA ~dPHI ~dRHO ~dPI ~",
    "bSANS-SERIF BOLD CAPITAL ALPHAfBETAfGAMMAfDELTAfEPSILONfZETAfETAfTHETAfIOTAfKAPPAfLAMDAfMUfNU",
    "fXIfOMICRONfPIfRHOfTHETA SYMBOLfSIGMAfTAUfUPSILONfPHIfCHIfPSIfOMEGAeNABLAeSMALL ALPHAfBETA",
    "fGAMMAfDELTAfEPSILONfZETAfETAfTHETAfIOTAfKAPPAfLAMDAfMUfNUfXIfOMICRONfPIfRHOfFINAL SIGMA",
    "fSIGMAfTAUfUPSILONfPHIfCHIfPSIfOMEGAePARTIAL DIFFERENTIALeEPSILON SYMBOLeTHETA ~eKAPPA ~",
    "ePHI ~eRHO ~ePI ~eITALIC CAPITAL ALPHAgBETAgGAMMAgDELTAgEPSILONgZETAgETAgTHETAgIOTAgKAPPA",
    "gLAMDAgMUgNUgXIgOMICRONgPIgRHOgTHETA SYMBOLgSIGMAgTAUgUPSILONgPHIgCHIgPSIgOMEGAfNABLA",
    "fSMALL ALPHAgBETAgGAMMAgDELTAgEPSILONgZETAgETAgTHETAgIOTAgKAPPAgLAMDAgMUgNUgXIgOMICRONgPIgRHO",
    "gFINAL SIGMAgSIGMAgTAUgUPSILONgPHIgCHIgPSIgOMEGAfPARTIAL DIFFERENTIALfEPSILON SYMBOLfTHETA ~",
    "fKAPPA ~fPHI ~fRHO ~fPI ~bBOLD CAPITAL DIGAMMAcSMALL ~@1D7CEcDIGIT ZEROdONEdTWOdTHREEdFOUR",
    "dFIVEdSIXdSEVENdEIGHTdNINEbDOUBLE-STRUCK DIGIT ZEROeONEeTWOeTHREEeFOUReFIVEeSIXeSEVENeEIGHT",
    "eNINEbSANS-SERIF DIGIT ZEROeONEeTWOeTHREEeFOUReFIVEeSIXeSEVENeEIGHTeNINEdBOLD DIGIT ZEROfONE",
    "fTWOfTHREEfFOURfFIVEfSIXfSEVENfEIGHTfNINEbMONOSPACE DIGIT ZEROdONEdTWOdTHREEdFOURdFIVEdSIX",
    "dSEVENdEIGHTdNINEaSIGNWRITING HAND-FIST INDEXcCIRCLE ~cCUP ~cOVAL ~cHINGE ~cANGLE ~",
    "cFIST INDEX BENTcCIRCLE ~cFIST THUMB UNDER INDEX BENTdINDEX RAISED KNUCKLEeCUPPEDeHINGED",
    "eHINGED LOWcCIRCLE INDEX HINGEcFIST INDEX MIDDLEcCIRCLE ~cFIST INDEX MIDDLE BENT",
    "fRAISED KNUCKLESfHINGEDeUP MIDDLE HINGEDeHINGED MIDDLE UPeMIDDLE CONJOINED",
    "fCONJOINED INDEX BENTgMIDDLE ~gCUPPEDgHINGEDfCROSSEDcCIRCLE ~cFIST MIDDLE BENT OVER INDEX",
    "dINDEX BENT OVER MIDDLEeMIDDLE THUMBcCIRCLE ~cFIST INDEX MIDDLE STRAIGHT THUMB BENT",
    "fBENT THUMB STRAIGHTfTHUMB BENTfHINGED SPREAD THUMB SIDEeUP MIDDLE HINGED ~iCONJOINED",
    "eHINGED MIDDLE UP THUMB SIDEeMIDDLE UP SPREAD THUMB FORWARDfTHUMB CUPPEDgCIRCLEDgHOOKED",
    "gHINGEDdTHUMB BETWEEN INDEX MIDDLE STRAIGHTdINDEX MIDDLE CONJOINED THUMB SIDEhSIDE CONJOINED",
    "iBENTdMIDDLE THUMB HOOKED INDEX UPdINDEX THUMB HOOKED MIDDLE ~",
    "eMIDDLE CONJOINED HINGED THUMB SIDEfCROSSED THUMB SIDEfCONJOINED THUMB FORWARD",
    "gCUPPED THUMB FORWARDdMIDDLE THUMB CUPPED INDEX UPdINDEX THUMB CUPPED MIDDLE ~",
    "dMIDDLE THUMB CIRCLED INDEX ~hHINGEDdINDEX THUMB ANGLED OUT MIDDLE UPgIN ~fCIRCLED MIDDLE UP",
    "eMIDDLE THUMB CONJOINED HINGEDgANGLED OUTgANGLEDdMIDDLE THUMB ANGLED OUT INDEX UPiCROSSED",
    "gINDEX UPdINDEX THUMB HOOKED MIDDLE HINGEDcFLAT FOUR FINGERSeFINGERS BENTfHINGEDfCONJOINED",
    "fCONJOINED SPLITcCLAW FOUR FINGERS CONJOINEDcFIST FOUR FINGERS CONJOINED BENT",
    "cHINGE FOUR FINGERS CONJOINEDcFLAT FIVE FINGERS SPREADdHEEL FIVE FINGERS SPREAD",
    "dFIVE FINGERS SPREAD FOUR BENTdHEEL FIVE FINGERS SPREAD FOUR BENTdFIVE FINGERS SPREAD BENT",
    "dHEEL FIVE FINGERS SPREAD BENTdFIVE FINGERS SPREAD THUMB FORWARDcCUP FIVE FINGERS SPREAD",
    "fSPREAD OPENcHINGE ~cOVAL FIVE FINGERS SPREADcFLAT FIVE FINGERS SPREAD HINGED",
    "gHINGED THUMB SIDEhNO THUMBcFLATcFLAT BETWEEN PALM FACINGSdHEELdTHUMB SIDEdHEEL THUMB SIDE",
    "dTHUMB BENTeFORWARDdSPLIT INDEX THUMB SIDEeCENTREeCENTRE THUMB SIDEgSIDE BENTeLITTLEcCLAW",
    "cCLAW THUMB SIDEdNO THUMBdTHUMB FORWARDcHOOK CURLICUEcHOOKcCUP OPENcCUPcCUP OPEN THUMB SIDE",
    "dTHUMB SIDEdOPEN NO THUMBdNO THUMBdOPEN THUMB FORWARDdTHUMB FORWARDcCURLICUE OPENcCURLICUE",
    "cCIRCLEcOVALcOVAL THUMB SIDEdNO THUMBdTHUMB FORWARDcHINGE OPENdOPEN THUMB FORWARDcHINGE",
    "cHINGE SMALLdOPEN THUMB SIDEdTHUMB SIDEdOPEN NO THUMBdNO THUMBdTHUMB SIDE TOUCHING INDEX",
    "eBETWEEN MIDDLE RINGcANGLEcFIST INDEX MIDDLE RINGcCIRCLE ~cHINGE ~cANGLE ~cHINGE LITTLE",
    "cFIST INDEX MIDDLE RING BENTgCONJOINEDcHINGE ~cFIST LITTLE DOWNeDOWN RIPPLE STRAIGHTgCURVED",
    "fOTHERS CIRCLEDeUPdTHUMB UNDER LITTLE UPcCIRCLE LITTLE UPcOVAL ~cANGLE ~",
    "cFIST LITTLE RAISED KNUCKLEeBENTeTOUCHES THUMBeTHUMBcHINGE ~cFIST LITTLE INDEX THUMBcHINGE ~",
    "cANGLE LITTLE INDEX THUMB INDEX THUMB OUThTHUMBcFIST LITTLE INDEXcCIRCLE ~cHINGE ~cANGLE ~",
    "cFIST INDEX MIDDLE LITTLEcCIRCLE ~cHINGE ~dRINGcANGLE INDEX MIDDLE LITTLE",
    "cFIST INDEX MIDDLE CROSS LITTLEcCIRCLE ~cFIST RING DOWN",
    "cHINGE RING DOWN INDEX THUMB HOOK MIDDLEcANGLE RING DOWN MIDDLE THUMB INDEX CROSS",
    "cFIST RING UPeRAISED KNUCKLEeLITTLEcCIRCLE ~cOVAL ~cANGLE ~cFIST RING MIDDLEeMIDDLE CONJOINED",
    "fRAISED KNUCKLESeINDEXeTHUMBcHOOK ~cFIST INDEX RING LITTLEcCIRCLE ~",
    "cCURLICUE INDEX RING LITTLE ONcHOOK INDEX RING LITTLE OUTgINgUNDERcCUP INDEX RING LITTLE",
    "cHINGE ~cANGLE INDEX RING LITTLE OUTfLITTLEcFIST MIDDLE DOWNcHINGE MIDDLEcFIST MIDDLE UP",
    "cCIRCLE ~cFIST MIDDLE RAISED KNUCKLEeUP THUMB SIDEcHOOK MIDDLE THUMBcFIST MIDDLE THUMB LITTLE",
    "eLITTLEeRING LITTLEcCIRCLE ~cCURLICUE MIDDLE RING LITTLE ONcCUP MIDDLE RING LITTLEcHINGE ~",
    "cANGLE MIDDLE RING LITTLE OUTgINfLITTLEcCIRCLE MIDDLE RING LITTLE BENT",
    "cCLAW MIDDLE RING LITTLE CONJOINEDgCONJOINED SIDEcHOOK MIDDLE RING LITTLE CONJOINED OUThIN",
    "gCONJOINEDcHINGE INDEX HINGEDcFIST INDEX THUMB SIDEcHINGE ~",
    "cFIST INDEX THUMB SIDE THUMB DIAGONALhCONJOINEDhBENTgINDEX ~gBOTH ~gINDEX HINGE",
    "fFORWARD INDEX STRAIGHThBENTfHOOKfCURLICUEfCURVE THUMB INSIDEcCLAW ~",
    "cFIST INDEX THUMB CURVE THUMB UNDERfCIRCLEcCUP INDEX THUMBeTHUMB OPENcHINGE ~fLARGEeTHUMB",
    "eTHUMB SMALLcANGLE INDEX THUMB OUTfINeTHUMBcFIST THUMBdTHUMB HEELeSIDE DIAGONALfCONJOINED",
    "fBENTeFORWARDeBETWEEN INDEX MIDDLEfMIDDLE RINGfRING LITTLEeUNDER TWO FINGERSeOVER ~",
    "eUNDER THREE ~fFOUR ~eOVER FOUR RAISED KNUCKLEScFISTcFIST HEELbTOUCH SINGLEcMULTIPLEcBETWEEN",
    "bGRASP SINGLEcMULTIPLEcBETWEENbSTRIKE SINGLEcMULTIPLEcBETWEENbBRUSH SINGLEcMULTIPLEcBETWEEN",
    "bRUB SINGLEcMULTIPLEcBETWEENbSURFACE SYMBOLScBETWEENbSQUEEZE LARGE SINGLEcSMALL ~",
    "cLARGE MULTIPLEcSMALL ~cSEQUENTIALbFLICK LARGE SINGLEcSMALL ~cLARGE MULTIPLEcSMALL ~",
    "cSEQUENTIALbSQUEEZE FLICK ALTERNATINGbMOVEMENT-HINGE UP DOWN LARGEfSMALLeSEQUENTIALdDOWN ~",
    "dUP DOWN ALTERNATING LARGEgSMALLdSIDE TO SIDE SCISSORScWALLPLANE FINGER CONTACTcFLOORPLANE ~",
    "cWALLPLANE SINGLE STRAIGHT SMALLfMEDIUMfLARGEfLARGESTeWRIST FLEXdDOUBLE STRAIGHTeWRIST FLEX",
    "eALTERNATINGeALTERNATING WRIST FLEXdCROSSdTRIPLE STRAIGHT MOVEMENTeWRIST FLEXeALTERNATING",
    "eALTERNATING WRIST FLEXdBEND SMALLeMEDIUMeLARGEdCORNER SMALLeMEDIUMeLARGEeROTATION",
    "dCHECK SMALLeMEDIUMeLARGEdBOX SMALLeMEDIUMeLARGEdZIGZAG SMALLeMEDIUMeLARGEdPEAKS SMALLeMEDIUM",
    "eLARGEbTRAVEL-WALLPLANE ROTATION-WALLPLANE SINGLEfDOUBLEfALTERNATINGeFLOORPLANE SINGLEfDOUBLE",
    "fALTERNATINGdSHAKINGdARM SPIRAL SINGLEfDOUBLEfTRIPLEbMOVEMENT-DIAGONAL AWAY SMALLeMEDIUM",
    "eLARGEeLARGESTdTOWARDS SMALLeMEDIUMeLARGEeLARGESTdBETWEEN AWAY SMALLfMEDIUMfLARGEfLARGEST",
    "eTOWARDS SMALLfMEDIUMfLARGEfLARGESTcFLOORPLANE SINGLE STRAIGHT SMALLfMEDIUMfLARGEfLARGEST",
    "eWRIST FLEXdDOUBLE STRAIGHTeWRIST FLEXeALTERNATINGeALTERNATING WRIST FLEXdCROSS",
    "dTRIPLE STRAIGHT MOVEMENTeWRIST FLEXeALTERNATING MOVEMENTfWRIST FLEXdBENDdCORNER SMALLeMEDIUM",
    "eLARGEdCHECKdBOX SMALLeMEDIUMeLARGEdZIGZAG SMALLeMEDIUMeLARGEdPEAKS SMALLeMEDIUMeLARGE",
    "bTRAVEL-FLOORPLANE ROTATION-FLOORPLANE SINGLEfDOUBLEfALTERNATINGeWALLPLANE SINGLEfDOUBLE",
    "fALTERNATINGdSHAKINGbMOVEMENT-WALLPLANE CURVE QUARTER SMALLfMEDIUMfLARGEfLARGEST",
    "eHALF-CIRCLE SMALLgMEDIUMgLARGEgLARGESTeTHREE-QUARTER CIRCLE SMALLhMEDIUMdHUMP SMALLeMEDIUM",
    "eLARGEdLOOP SMALLeMEDIUMeLARGEeSMALL DOUBLEdWAVE CURVE DOUBLE SMALLgMEDIUMgLARGEfTRIPLE SMALL",
    "gMEDIUMgLARGEdCURVE THEN STRAIGHTdCURVED CROSS SMALLfMEDIUMbROTATION-WALLPLANE SINGLEdDOUBLE",
    "dALTERNATEbMOVEMENT-WALLPLANE SHAKINGdCURVE HITTING FRONT WALLdHUMP ~dLOOP ~dWAVE ~",
    "bROTATION-WALLPLANE SINGLE ~dDOUBLE ~dALTERNATING ~bMOVEMENT-WALLPLANE CURVE HITTING CHEST",
    "dHUMP ~dLOOP ~dWAVE ~bROTATION-WALLPLANE SINGLE ~dDOUBLE ~dALTERNATING ~",
    "bMOVEMENT-WALLPLANE WAVE DIAGONAL PATH SMALLgMEDIUMgLARGE",
    "cFLOORPLANE CURVE HITTING CEILING SMALLgLARGEdHUMP HITTING CEILING SMALL DOUBLEgLARGE ~",
    "gSMALL TRIPLEgLARGE ~dLOOP HITTING CEILING SMALL SINGLEgLARGE ~gSMALL DOUBLEgLARGE ~",
    "dWAVE HITTING CEILING SMALLgLARGEbROTATION-FLOORPLANE SINGLE HITTING CEILINGdDOUBLE ~",
    "dALTERNATING ~bMOVEMENT-FLOORPLANE CURVE HITTING FLOOR SMALLgLARGE",
    "dHUMP HITTING FLOOR SMALL DOUBLEgLARGE ~gTRIPLE SMALL TRIPLEhLARGE ~",
    "dLOOP HITTING FLOOR SMALL SINGLEgLARGE ~gSMALL DOUBLEgLARGE ~dWAVE HITTING FLOOR SMALLgLARGE",
    "bROTATION-FLOORPLANE SINGLE HITTING FLOORdDOUBLE ~dALTERNATING ~",
    "bMOVEMENT-FLOORPLANE CURVE SMALLeMEDIUMeLARGEeLARGESTeCOMBINEDdHUMP SMALLdLOOP ~dWAVE SNAKE",
    "eSMALLeLARGEbROTATION-FLOORPLANE SINGLEdDOUBLEdALTERNATING",
    "bMOVEMENT-FLOORPLANE SHAKING PARALLELcWALLPLANE ARM CIRCLE SMALL SINGLEfMEDIUM ~fSMALL DOUBLE",
    "fMEDIUM ~cFLOORPLANE ARM CIRCLE HITTING WALL SMALL SINGLEhMEDIUM ~hLARGE ~hSMALL DOUBLE",
    "hMEDIUM ~hLARGE ~cWALLPLANE WRIST CIRCLE FRONT SINGLEgDOUBLE",
    "cFLOORPLANE WRIST CIRCLE HITTING WALL SINGLEhDOUBLEcWALLPLANE FINGER CIRCLES SINGLEfDOUBLE",
    "cFLOORPLANE FINGER CIRCLES HITTING WALL SINGLEhDOUBLEbDYNAMIC ARROWHEAD SMALLdLARGEcFASTcSLOW",
    "cTENSEcRELAXEDcSIMULTANEOUScSIMULTANEOUS ALTERNATINGcEVERY OTHER TIMEcGRADUALbHEADbHEAD RIM",
    "cMOVEMENT-WALLPLANE STRAIGHTeTILTdFLOORPLANE STRAIGHTdWALLPLANE CURVEdFLOORPLANE ~",
    "cMOVEMENT CIRCLEbFACE DIRECTION POSITION NOSE FORWARD TILTINGfUP OR DOWNhDOWN TILTING",
    "bEYEBROWS STRAIGHT UPdNEUTRALdDOWNbDREAMY EYEBROWS NEUTRAL DOWNdDOWN NEUTRALdUP ~dNEUTRAL UP",
    "bFOREHEAD NEUTRALcCONTACTcWRINKLEDbEYES OPENcSQUEEZEDcCLOSEDbEYE BLINK SINGLEdMULTIPLE",
    "bEYES HALF OPENcWIDE ~cHALF CLOSEDcWIDENING MOVEMENTbEYE WINKbEYELASHES UPcDOWNcFLUTTERING",
    "bEYEGAZE-WALLPLANE STRAIGHTdSTRAIGHT DOUBLEeALTERNATINGcFLOORPLANE STRAIGHTdSTRAIGHT DOUBLE",
    "eALTERNATINGcWALLPLANE CURVEDcFLOORPLANE ~cWALLPLANE CIRCLINGbCHEEKS PUFFEDcNEUTRALcSUCKED",
    "bTENSE CHEEKS HIGHdMIDDLEdLOWbEARSbNOSE NEUTRALcCONTACTcWRINKLEScWIGGLESbAIR BLOWING OUT",
    "cSUCKING INcBLOW SMALL ROTATIONScSUCK ~bBREATH INHALEcEXHALEbMOUTH CLOSED NEUTRALdFORWARD",
    "dCONTACTcSMILEcSMILE WRINKLEDdOPENcFROWNcFROWN WRINKLEDdOPENcOPEN CIRCLEdFORWARDdWRINKLED",
    "dOVALdOVAL WRINKLEDeYAWNdRECTANGLEdRECTANGLE WRINKLEDeYAWNcKISScKISS FORWARDdWRINKLEDcTENSE",
    "cTENSE FORWARDdSUCKEDbLIPS PRESSED TOGETHERbLIP LOWER OVER UPPERcUPPER OVER LOWER",
    "bMOUTH CORNERScWRINKLES SINGLEdDOUBLEbTONGUE STICKING OUT FARcLICKING LIPScTIP BETWEEN LIPS",
    "dTOUCHING INSIDE MOUTHcINSIDE MOUTH RELAXEDcMOVES AGAINST CHEEKcCENTRE STICKING OUT",
    "dINSIDE MOUTHbTEETHbTEETH MOVEMENTcON TONGUEdTONGUE MOVEMENTdLIPSdLIPS MOVEMENTcBITE LIPS",
    "bMOVEMENT-WALLPLANE JAWcFLOORPLANE ~bNECKbHAIRbEXCITEMENTbSHOULDER HIP SPINEdPOSITIONS",
    "bWALLPLANE SHOULDER HIP MOVEbFLOORPLANE ~bSHOULDER TILTING FROM WAIST",
    "bTORSO-WALLPLANE STRAIGHT STRETCHdCURVED BENDcFLOORPLANE TWISTING",
    "bUPPER BODY TILTING FROM HIP JOINTSbLIMB COMBINATIONcLENGTH-1d2d3d4d5d6d7bFINGER",
    "bLOCATION-WALLPLANE SPACEcFLOORPLANE ~bLOCATION HEIGHTcWIDTHcDEPTHcHEAD NECKcTORSO",
    "cLIMBS DIGITSbCOMMAbFULL STOPbSEMICOLONbCOLONbPARENTHESIS@1DA9BbFILL MODIFIER-2d3d4d5d6",
    "@1DAA1bROTATION MODIFIER-2d3d4d5d6d7d8d9d10d11d12d13d14d15d16",
    "@1DF00aLATIN SMALL LETTER FENG DIGRAPH WITH TRILLdREVERSED SCRIPT G",
    "bLETTER SMALL CAPITAL TURNED GbSMALL LETTER REVERSED KbLETTER SMALL CAPITAL L WITH BELT",
    "bSMALL LETTER LEZH WITH RETROFLEX HOOKdTURNED Y WITH BELTdREVERSED ENG",
    "dTURNED R WITH LONG LEG AND RETROFLEX HOOKdT WITH HOOK AND RETROFLEX HOOK",
    "bLETTER RETROFLEX CLICK WITH RETROFLEX HOOKbSMALL LETTER ESH WITH DOUBLE BARgBAR AND CURL",
    "dTURNED T WITH CURLbLETTER INVERTED GLOTTAL STOP ~cSTRETCHED C WITH CURL",
    "cSMALL CAPITAL TURNED KbSMALL LETTER L WITH FISHHOOKdDEZH DIGRAPH WITH PALATAL HOOK",
    "dL WITH BELT AND PALATAL HOOKdENG WITH PALATAL HOOKdTURNED R WITH PALATAL HOOK",
    "dR WITH FISHHOOK AND PALATAL HOOKdTESH DIGRAPH WITH PALATAL HOOKdEZH WITH PALATAL HOOK",
    "dDEZH DIGRAPH WITH RETROFLEX HOOKdI WITH STROKE AND RETROFLEX HOOKdO WITH RETROFLEX HOOK",
    "dTESH DIGRAPH WITH RETROFLEX HOOKdC WITH RETROFLEX HOOKdS WITH CURL",
    "@1E000aCOMBINING GLAGOLITIC LETTER AZUdBUKYdVEDEdGLAGOLIdDOBROdYESTUdZHIVETE@1E008dZEMLJA",
    "dIZHEdINITIAL IZHEdIdDJERVIdKAKOdLJUDIJEdMYSLITEdNASHIdONUdPOKOJIdRITSIdSLOVOdTVRIDOdUKU",
    "dFRITUdHERU@1E01BdSHTAdTSIdCHRIVIdSHAdYERUdYERIdYATI@1E023dYUdSMALL YUS@1E026dYO",
    "dIOTATED SMALL YUSdBIG YUSdIOTATED BIG YUSdFITA@1E100aNYIAKENG PUACHUE HMONG LETTER MAeTSA",
    "eNTAeTAeHAeNAeXAeNKAeCAeLAeSAeZAeNCAeNTSAeKAeDAeNYAeNRAeVAeNTXAeTXAeFAeRAeQAeYAeNQAePAeXYA",
    "eNPAeDLAeNPLAeHAHeMLAePLAeGAeRRAeAeAAeIeUeOeOOeEeEEeW@1E130dTONE-BeMeJeVeSeGeD",
    "dSIGN FOR PERSONfTHINGfLOCATIONfANIMALfINVERTEBRATEeXW XWdSYLLABLE LENGTHENER",
    "@1E140dDIGIT ZEROeONEeTWOeTHREEeFOUReFIVEeSIXeSEVENeEIGHTeNINE@1E14EdLOGOGRAM NYAJdCIRCLED CA",
    "@1E290aTOTO LETTER PAcBAcTAcDAcKAcGAcMAcNAcNGAcSAcCHAcYAcWAcJAcHAcRAcLAcIcBREATHY IcIU",
    "cBREATHY IUcUcEcBREATHY EcEOcBREATHY EOcOcAEcBREATHY AEcAbSIGN RISING TONE",
    "@1E2C0aWANCHO LETTER AAcAcBAcCAcDAcGAcYAcPHAcLAcNAcPAcTAcTHAcFAcSAcSHAcJAcZAcWAcVAcKAcOcAUcRA",
    "cMAcKHAcHAcEcIcNGAcUcLLHAcTSAcTRAcONGcAANGcANGcINGcONcENcAANcNYAcUENcYIHbTONE TUPcTUPNIcKOI",
    "cKOINIbDIGIT ZEROcONEcTWOcTHREEcFOURcFIVEcSIXcSEVENcEIGHTcNINE@1E2FFbNGUN SIGN",
    "@1E7E0aETHIOPIC SYLLABLE HHYAcHHYUcHHYIcHHYAAcHHYEEcHHYEcHHYO@1E7E8cGURAGE HHWAcHHWIcHHWEE",
    "cHHWE@1E7EDcGURAGE MWIdMWEE@1E7F0dQWIdQWEEdQWEdBWIdBWEEdKWIdKWEEdKWEdGWIdGWEEdGWEdFWIdFWEE",
    "dPWIdPWEE@1E800aMENDE KIKAKUI SYLLABLE M001 KIdM002 KAdM003 KUdM065 KEEdM095 KEdM076 KOO",
    "dM048 KOdM179 KUAdM004 WIdM005 WAdM006 WUdM126 WEEdM118 WEdM114 WOOdM045 WOdM194 WUIdM143 WEI",
    "dM061 WVIdM049 WVAdM139 WVEdM007 MINdM008 MANdM009 MUNdM059 MENdM094 MONdM154 MUANdM189 MUEN",
    "dM010 BIdM011 BAdM012 BUdM150 BEEdM097 BEdM103 BOOdM138 BOdM013 IdM014 AdM015 UdM163 EE",
    "dM100 EdM165 OOdM147 OdM137 EIdM131 INdM135 ~dM195 ANdM178 ENdM019 SIdM020 SAdM021 SU",
    "dM162 SEEdM116 SEdM136 SOOdM079 SOdM196 SIAdM025 LIdM026 LAdM027 LUdM084 LEEdM073 LEdM054 LOO",
    "dM153 LOdM110 LONG LEdM016 DIdM017 DAdM018 DUdM089 DEEdM180 DOOdM181 DOdM022 TIdM023 TA",
    "dM024 TUdM091 TEEdM055 TEdM104 TOOdM069 TOdM028 JIdM029 JAdM030 JUdM157 JEEdM113 JEdM160 JOO",
    "dM063 JOdM175 LONG JOdM031 YIdM032 YAdM033 YUdM109 YEEdM080 YEdM141 YOOdM121 YOdM034 FI",
    "dM035 FAdM036 FUdM078 FEEdM075 FEdM133 FOOdM088 FOdM197 FUAdM101 FANdM037 NINdM038 NAN",
    "dM039 NUNdM117 NENdM169 NONdM176 HIdM041 HAdM186 HUdM040 HEEdM096 HEdM042 HOOdM140 HO",
    "dM083 HEEIdM128 HOOUdM053 HINdM130 HANdM087 HUNdM052 HENdM193 HONdM046 HUANdM090 NGGI",
    "dM043 NGGAdM082 NGGUdM115 NGGEEdM146 NGGEdM156 NGGOOdM120 NGGOdM159 NGGAAdM127 NGGUA",
    "dM086 LONG NGGEdM106 LONG NGGOOdM183 LONG NGGOdM155 GIdM111 GAdM168 GUdM190 GEEdM166 GUEI",
    "dM167 GUANdM184 NGENdM057 NGONdM177 NGUANdM068 PIdM099 PAdM050 PUdM081 PEEdM051 PEdM102 POO",
    "dM066 POdM145 MBIdM062 MBAdM122 MBUdM047 MBEEdM188 ~dM072 MBEdM172 MBOOdM174 MBOdM187 MBUU",
    "dM161 LONG MBEdM105 LONG MBOOdM142 LONG MBOdM132 KPIdM092 KPAdM074 KPUdM044 KPEEdM108 KPE",
    "dM112 KPOOdM158 KPOdM124 GBIdM056 GBAdM148 GBUdM093 GBEEdM107 GBEdM071 GBOOdM070 GBOdM171 RA",
    "dM123 NDIdM129 NDAdM125 NDUdM191 NDEEdM119 NDEdM067 NDOOdM064 NDOdM152 NJAdM192 NJUdM149 NJEE",
    "dM134 NJOOdM182 VIdM185 VAdM151 VUdM173 VEEdM085 VEdM144 VOOdM077 VOdM164 NYINdM058 NYAN",
    "dM170 NYUNdM098 NYENdM060 NYON@1E8C7cDIGIT ONEdTWOdTHREEdFOURdFIVEdSIXdSEVENdEIGHTdNINE",
    "cCOMBINING NUMBER TEENSeTENSeHUNDREDSeTHOUSANDSeTEN THOUSANDSeHUNDRED ~eMILLIONS",
    "@1E900aADLAM CAPITAL LETTER ALIFdDAALIdLAAMdMIIMdBAdSINNYIIYHEdPEdBHEdRAdEdFAdIdOdDHAdYHEdWAW",
    "dNUNdKAFdYAdUdJIIMdCHIdHAdQAAFdGAdNYAdTUdNHAdVAdKHAdGBEdZALdKPOdSHAbSMALL LETTER ALIFdDAALI",
    "dLAAMdMIIMdBAdSINNYIIYHEdPEdBHEdRAdEdFAdIdOdDHAdYHEdWAWdNUNdKAFdYAdUdJIIMdCHIdHAdQAAFdGAdNYA",
    "dTUdNHAdVAdKHAdGBEdZALdKPOdSHAbALIF LENGTHENERbVOWEL ~bGEMINATION MARKbHAMZA",
    "bCONSONANT MODIFIERbGEMINATE CONSONANT MODIFIERbNUKTAbNASALIZATION MARK@1E950bDIGIT ZEROcONE",
    "cTWOcTHREEcFOURcFIVEcSIXcSEVENcEIGHTcNINE@1E95EbINITIAL EXCLAMATION MARKcQUESTION ~",
    "@1EC71aINDIC SIYAQ NUMBER ONEdTWOdTHREEdFOURdFIVEdSIXdSEVENdEIGHTdNINEdTENdTWENTYdTHIRTY",
    "dFORTYdFIFTYdSIXTYdSEVENTYdEIGHTYdNINETYdONE HUNDREDdTWO ~dTHREE ~dFOUR ~dFIVE ~dSIX ~",
    "dSEVEN ~dEIGHT ~dNINE ~dONE THOUSANDdTWO ~dTHREE ~dFOUR ~dFIVE ~dSIX ~dSEVEN ~dEIGHT ~dNINE ~",
    "dTEN ~dTWENTY ~dTHIRTY ~dFORTY ~dFIFTY ~dSIXTY ~dSEVENTY ~dEIGHTY ~dNINETY ~dLAKHdLAKHAN",
    "cLAKH MARKcNUMBER KARORdKARORANdPREFIXED ONEeTWOeTHREEeFOUReFIVEeSIXeSEVENeEIGHTeNINE",
    "cPLACEHOLDERcFRACTION ONE QUARTEReHALFdTHREE QUARTERScRUPEE MARKcNUMBER ALTERNATE ONEeTWO",
    "eTEN THOUSANDcALTERNATE LAKH MARK@1ED01aOTTOMAN SIYAQ NUMBER ONEdTWOdTHREEdFOURdFIVEdSIX",
    "dSEVENdEIGHTdNINEdTENdTWENTYdTHIRTYdFORTYdFIFTYdSIXTYdSEVENTYdEIGHTYdNINETYdONE HUNDREDdTWO ~",
    "dTHREE ~dFOUR ~dFIVE ~dSIX ~dSEVEN ~dEIGHT ~dNINE ~dONE THOUSANDdTWO ~dTHREE ~dFOUR ~dFIVE ~",
    "dSIX ~dSEVEN ~dEIGHT ~dNINE ~dTEN ~dTWENTY ~dTHIRTY ~dFORTY ~dFIFTY ~dSIXTY ~dSEVENTY ~",
    "dEIGHTY ~dNINETY ~cMARRATANcALTERNATE NUMBER TWOeTHREEeFOUReFIVEeSIXeSEVENeEIGHTeNINEeTEN",
    "eFOUR HUNDREDeSIX ~eTWO THOUSANDeTEN ~cFRACTION ONE HALFeSIXTH@1EE00aARABIC MATHEMATICAL ALEF",
    "cBEHcJEEMcDAL@1EE05cWAWcZAINcHAHcTAHcYEHcKAFcLAMcMEEMcNOONcSEENcAINcFEHcSADcQAFcREHcSHEENcTEH",
    "cTHEHcKHAHcTHALcDADcZAHcGHAINcDOTLESS BEHdNOONdFEHdQAF@1EE21cINITIAL BEHdJEEM@1EE24dHEH",
    "@1EE27dHAH@1EE29dYEHdKAFdLAMdMEEMdNOONdSEENdAINdFEHdSADdQAF@1EE34dSHEENdTEHdTHEHdKHAH",
    "@1EE39dDAD@1EE3BdGHAIN@1EE42cTAILED JEEM@1EE47dHAH@1EE49dYEH@1EE4BdLAM@1EE4DdNOONdSEENdAIN",
    "@1EE51dSADdQAF@1EE54dSHEEN@1EE57dKHAH@1EE59dDAD@1EE5BdGHAIN@1EE5DdDOTLESS NOON@1EE5FeQAF",
    "@1EE61cSTRETCHED BEHdJEEM@1EE64dHEH@1EE67dHAHdTAHdYEHdKAF@1EE6CdMEEMdNOONdSEENdAINdFEHdSAD",
    "dQAF@1EE74dSHEENdTEHdTHEHdKHAH@1EE79dDADdZAHdGHAINdDOTLESS BEH@1EE7EeFEH@1EE80cLOOPED ALEF",
    "dBEHdJEEMdDALdHEHdWAWdZAINdHAHdTAHdYEH@1EE8BdLAMdMEEMdNOONdSEENdAINdFEHdSADdQAFdREHdSHEENdTEH",
    "dTHEHdKHAHdTHALdDADdZAHdGHAIN@1EEA1cDOUBLE-STRUCK BEHeJEEMeDAL@1EEA5eWAWeZAINeHAHeTAHeYEH",
    "@1EEABeLAMeMEEMeNOONeSEENeAINeFEHeSADeQAFeREHeSHEENeTEHeTHEHeKHAHeTHALeDADeZAHeGHAIN",
    "@1EEF0cOPERATOR MEEM WITH HAH WITH TATWEELdHAH WITH DAL"]

end JsonExpr.Text.CharacterName
