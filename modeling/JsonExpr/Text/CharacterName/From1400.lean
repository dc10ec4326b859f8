/-!
The names of the characters from 1400 to 24FF.
-/

namespace JsonExpr.Text.CharacterName

def from1400 : List String :=
  ["@1400aCANADIAN SYLLABICS HYPHENcEcAAIcIcIIcOcOOcY-CREE OOcCARRIER EEdIcAcAAcWEcWEST-CREE WE",
    "cWIcWEST-CREE WIcWIIcWEST-CREE WIIcWOcWEST-CREE WOcWOOcWEST-CREE WOOcNASKAPI WOOcWA",
    "cWEST-CREE WAcWAAcWEST-CREE WAAcNASKAPI WAAcAIcY-CREE WcGLOTTAL STOPcFINAL ACUTEdGRAVE",
    "dBOTTOM HALF RINGdTOP ~dRIGHT ~dRINGdDOUBLE ACUTEeSHORT VERTICAL STROKESdMIDDLE DOT",
    "dSHORT HORIZONTAL STROKEdPLUSdDOWN TACKcENcINcONcANcPEcPAAIcPIcPIIcPOcPOOcY-CREE POO",
    "cCARRIER HEEdHIcPAcPAAcPWEcWEST-CREE PWEcPWIcWEST-CREE PWIcPWIIcWEST-CREE PWIIcPWO",
    "cWEST-CREE PWOcPWOOcWEST-CREE PWOOcPWAcWEST-CREE PWAcPWAAcWEST-CREE PWAAcY-~cPcWEST-CREE P",
    "cCARRIER HcTEcTAAIcTIcTIIcTOcTOOcY-CREE TOOcCARRIER DEEdDIcTAcTAAcTWEcWEST-CREE TWEcTWI",
    "cWEST-CREE TWIcTWIIcWEST-CREE TWIIcTWOcWEST-CREE TWOcTWOOcWEST-CREE TWOOcTWAcWEST-CREE TWA",
    "cTWAAcWEST-CREE TWAAcNASKAPI TWAAcTcTTEcTTIcTTOcTTAcKEcKAAIcKIcKIIcKOcKOOcY-CREE KOOcKAcKAA",
    "cKWEcWEST-CREE KWEcKWIcWEST-CREE KWIcKWIIcWEST-CREE KWIIcKWOcWEST-CREE KWOcKWOO",
    "cWEST-CREE KWOOcKWAcWEST-CREE KWAcKWAAcWEST-CREE KWAAcNASKAPI KWAAcKcKWcSOUTH-SLAVEY KEHeKIH",
    "eKOHeKAHcCEcCAAIcCIcCIIcCOcCOOcY-CREE COOcCAcCAAcCWEcWEST-CREE CWEcCWIcWEST-CREE CWIcCWII",
    "cWEST-CREE CWIIcCWOcWEST-CREE CWOcCWOOcWEST-CREE CWOOcCWAcWEST-CREE CWAcCWAAcWEST-CREE CWAA",
    "cNASKAPI CWAAcCcSAYISI THcMEcMAAIcMIcMIIcMOcMOOcY-CREE MOOcMAcMAAcMWEcWEST-CREE MWEcMWI",
    "cWEST-CREE MWIcMWIIcWEST-CREE MWIIcMWOcWEST-CREE MWOcMWOOcWEST-CREE MWOOcMWAcWEST-CREE MWA",
    "cMWAAcWEST-CREE MWAAcNASKAPI MWAAcMcWEST-CREE McMHcATHAPASCAN McSAYISI McNEcNAAIcNIcNIIcNO",
    "cNOOcY-CREE NOOcNAcNAAcNWEcWEST-CREE NWEcNWAcWEST-CREE NWAcNWAAcWEST-CREE NWAAcNASKAPI NWAAcN",
    "cCARRIER NGcNHcLEcLAAIcLIcLIIcLOcLOOcY-CREE LOOcLAcLAAcLWEcWEST-CREE LWEcLWIcWEST-CREE LWI",
    "cLWIIcWEST-CREE LWIIcLWOcWEST-CREE LWOcLWOOcWEST-CREE LWOOcLWAcWEST-CREE LWAcLWAA",
    "cWEST-CREE LWAAcLcWEST-CREE LcMEDIAL LcSEcSAAIcSIcSIIcSOcSOOcY-CREE SOOcSAcSAAcSWE",
    "cWEST-CREE SWEcSWIcWEST-CREE SWIcSWIIcWEST-CREE SWIIcSWOcWEST-CREE SWOcSWOOcWEST-CREE SWOO",
    "cSWAcWEST-CREE SWAcSWAAcWEST-CREE SWAAcNASKAPI SWAAcScATHAPASCAN ScSWcBLACKFOOT S",
    "cMOOSE-CREE SKcNASKAPI SKWdS-WdSPWAdSTWAdSKWAdSCWAcSHEcSHIcSHIIcSHOcSHOOcSHAcSHAAcSHWE",
    "cWEST-CREE SHWEcSHWIcWEST-CREE SHWIcSHWIIcWEST-CREE SHWIIcSHWOcWEST-CREE SHWOcSHWOO",
    "cWEST-CREE SHWOOcSHWAcWEST-CREE SHWAcSHWAAcWEST-CREE SHWAAcSHcYEcYAAIcYIcYIIcYOcYOO",
    "cY-CREE YOOcYAcYAAcYWEcWEST-CREE YWEcYWIcWEST-CREE YWIcYWIIcWEST-CREE YWIIcYWOcWEST-CREE YWO",
    "cYWOOcWEST-CREE YWOOcYWAcWEST-CREE YWAcYWAAcWEST-CREE YWAAcNASKAPI YWAAcYcBIBLE-CREE YcWEST-~",
    "cSAYISI YIcREcR-CREE REcWEST-CREE LEcRAAIcRIcRIIcROcROOcWEST-CREE LOcRAcRAAcWEST-CREE LAcRWAA",
    "cWEST-CREE RWAAcRcWEST-CREE RcMEDIAL RcFEcFAAIcFIcFIIcFOcFOOcFAcFAAcFWAAcWEST-CREE FWAAcFcTHE",
    "cN-CREE THEcTHIcN-CREE THIcTHIIcN-CREE THIIcTHOcTHOOcTHAcTHAAcTHWAAcWEST-CREE THWAAcTHcTTHE",
    "cTTHIcTTHOcTTHAcTTHcTYEcTYIcTYOcTYAcNUNAVIK HEdHIdHIIdHOdHOOdHAdHAAdHcNUNAVUT HcHKcQAAIcQI",
    "cQIIcQOcQOOcQAcQAAcQcTLHEcTLHIcTLHOcTLHAcWEST-CREE REeRIeROeRAcNGAAIcNGIcNGIIcNGOcNGOOcNGA",
    "cNGAAcNGcNNGcSAYISI SHEdSHIdSHOdSHAcWOODS-CREE THEeTHIeTHOeTHAeTHcLHIcLHIIcLHOcLHOOcLHAcLHAA",
    "cLHcTH-CREE THEeTHIeTHIIeTHOeTHOOeTHAeTHAAeTHcAIVILIK BcBLACKFOOT EdIdOdAdWEdWIdWOdWAdNEdNI",
    "dNOdNAdKEdKIdKOdKAcSAYISI HEdHIdHOdHAcCARRIER GHUdGHOdGHEdGHEEdGHIdGHAdRUdROdREdREEdRIdRAdWU",
    "dWOdWEdWEEdWIdWAdHWUdHWOdHWEdHWEEdHWIdHWAdTHUdTHOdTHEdTHEEdTHIdTHAdTTUdTTOdTTEdTTEEdTTIdTTA",
    "dPUdPOdPEdPEEdPIdPAdPdGUdGOdGEdGEEdGIdGAdKHUdKHOdKHEdKHEEdKHIdKHAdKKUdKKOdKKEdKKEEdKKIdKKAdKK",
    "dNUdNOdNEdNEEdNIdNAdMUdMOdMEdMEEdMIdMAdYUdYOdYEdYEEdYIdYAdJUcSAYISI ~cCARRIER JOdJEdJEEdJI",
    "cSAYISI ~cCARRIER JAdJJUdJJOdJJEdJJEEdJJIdJJAdLUdLOdLEdLEEdLIdLAdDLUdDLOdDLEdDLEEdDLIdDLAdLHU",
    "dLHOdLHEdLHEEdLHIdLHAdTLHUdTLHOdTLHEdTLHEEdTLHIdTLHAdTLUdTLOdTLEdTLEEdTLIdTLAdZUdZOdZEdZEEdZI",
    "dZAdZdINITIAL ZdDZUdDZOdDZEdDZEEdDZIdDZAdSUdSOdSEdSEEdSIdSAdSHUdSHOdSHEdSHEEdSHIdSHAdSHdTSU",
    "dTSOdTSEdTSEEdTSIdTSAdCHUdCHOdCHEdCHEEdCHIdCHAdTTSUdTTSOdTTSEdTTSEEdTTSIdTTSAcCHI SIGN",
    "cFULL STOPcQAIcNGAIcNNGIcNNGIIcNNGOcNNGOOcNNGAcNNGAAcWOODS-CREE THWEEeTHWIeTHWIIeTHWOeTHWOO",
    "eTHWAeTHWAAeFINAL THcBLACKFOOT WaOGHAM SPACE MARKbLETTER BEITHcLUIScFEARNcSAILcNIONcUATHcDAIR",
    "cTINNEcCOLLcCEIRTcMUINcGORTcNGEADALcSTRAIFcRUIScAILMcONNcURcEADHADHcIODHADHcEABHADHcOR",
    "cUILLEANNcIFINcEAMHANCHOLLcPEITHbFEATHER MARKbREVERSED FEATHER MARK",
    "@16A0aRUNIC LETTER FEHU FEOH FE FcVcURUZ UR UcYRcYcWcTHURISAZ THURS THORNcETHcANSUZ AcOS O",
    "cAC AcAESCcLONG-BRANCH-OSS OcSHORT-TWIG-~cOcOEcONcRAIDO RAD REID RcKAUNAcCENcKAUN KcGcENG",
    "cGEBO GYFU GcGARcWUNJO WYNN WcHAGLAZ HcHAEGL HcLONG-BRANCH-HAGALL HcSHORT-TWIG-~",
    "cNAUDIZ NYD NAUD NcSHORT-TWIG-~cDOTTED-NcISAZ IS ISS IcEcJERAN JcGERcLONG-BRANCH-AR AE",
    "cSHORT-TWIG-AR AcIWAZ EOHcPERTHO PEORTH PcALGIZ EOLHXcSOWILO ScSIGEL LONG-BRANCH-SOL S",
    "cSHORT-TWIG-SOL ScCcZcTIWAZ TIR TYR TcSHORT-TWIG-~cDcBERKANAN BEORC BJARKAN BcSHORT-TWIG-~",
    "cDOTTED-PcOPEN-PcEHWAZ EH EcMANNAZ MAN McLONG-BRANCH-MADR McSHORT-TWIG-~cLAUKAZ LAGU LOGR L",
    "cDOTTED-LcINGWAZcINGcDAGAZ DAEG DcOTHALAN ETHEL OcEARcIORcCWEORTHcCALCcCEALCcSTAN",
    "cLONG-BRANCH-YRcSHORT-TWIG-~cICELANDIC-YRcQcXbSINGLE PUNCTUATIONbMULTIPLE ~bCROSS ~",
    "bARLAUG SYMBOLbTVIMADUR ~bBELGTHOR ~bLETTER KcSHcOOcFRANKS CASKET OSeISeEHeACeAESC",
    "@1700aTAGALOG LETTER AcIcUcKAcGAcNGAcTAcDAcNAcPAcBAcMAcYAcRAcLAcWAcSAcHAbVOWEL SIGN IdU",
    "bSIGN VIRAMAcPAMUDPOD@171FbLETTER ARCHAIC RAaHANUNOO LETTER AcIcUcKAcGAcNGAcTAcDAcNAcPAcBAcMA",
    "cYAcRAcLAcWAcSAcHAbVOWEL SIGN IdUbSIGN PAMUDPODaPHILIPPINE SINGLE PUNCTUATIONbDOUBLE ~",
    "@1740aBUHID LETTER AcIcUcKAcGAcNGAcTAcDAcNAcPAcBAcMAcYAcRAcLAcWAcSAcHAbVOWEL SIGN IdU",
    "@1760aTAGBANWA LETTER AcIcUcKAcGAcNGAcTAcDAcNAcPAcBAcMAcYA@176EcLAcWAcSA@1772bVOWEL SIGN IdU",
    "@1780aKHMER LETTER KAcKHAcKOcKHOcNGOcCAcCHAcCOcCHOcNYOcDAcTTHAcDOcTTHOcNNOcTAcTHAcTOcTHOcNO",
    "cBAcPHAcPOcPHOcMOcYOcROcLOcVOcSHAcSSOcSAcHAcLAcQAbINDEPENDENT VOWEL QAQdQAAdQIdQIIdQUdQUKdQUU",
    "dQUUVdRYdRYYdLYdLYYdQEdQAIdQOO TYPE ONEfTWOdQAUbVOWEL INHERENT AQdAAcSIGN ~dIdIIdYdYYdUdUUdUA",
    "dOEdYAdIEdEdAEdAIdOOdAUbSIGN NIKAHITcREAHMUKcYUUKALEAPINTUcMUUSIKATOANcTRIISAPcBANTOCcROBAT",
    "cTOANDAKHIATcKAKABATcAHSDAcSAMYOK SANNYAcVIRIAMcCOENGcBATHAMASATcKHANcBARIYOOSAN",
    "cCAMNUC PII KUUHcLEK TOOcBEYYALcPHNAEK MUANcKOOMUUTbCURRENCY SYMBOL RIELbSIGN AVAKRAHASANYA",
    "cATTHACAN@17E0bDIGIT ZEROcONEcTWOcTHREEcFOURcFIVEcSIXcSEVENcEIGHTcNINE",
    "@17F0bSYMBOL LEK ATTAK SONeMUOYePIIeBEIeBUONePRAMePRAM-MUOYfPIIfBEIfBUON@1800aMONGOLIAN BIRGA",
    "bELLIPSISbCOMMAbFULL STOPbCOLONbFOUR DOTSbTODO SOFT HYPHENbSIBE SYLLABLE BOUNDARY MARKER",
    "bMANCHU COMMAcFULL STOPbNIRUGUbFREE VARIATION SELECTOR ONEeTWOeTHREEbVOWEL SEPARATOR",
    "bFREE VARIATION SELECTOR FOURbDIGIT ZEROcONEcTWOcTHREEcFOURcFIVEcSIXcSEVENcEIGHTcNINE",
    "@1820bLETTER AcEcIcOcUcOEcUEcEEcNAcANGcBAcPAcQAcGAcMAcLAcSAcSHAcTAcDAcCHAcJAcYAcRAcWAcFAcKA",
    "cKHAcTSAcZAcHAAcZRAcLHAcZHIcCHIcTODO LONG VOWEL SIGNdEdIdOdUdOEdUEdANGdBAdPAdQAdGAdMAdTAdDA",
    "dCHAdJAdTSAdYAdWAdKAdGAAdHAAdJIAdNIAdDZAcSIBE EdIdIYdUEdUdANGdKAdGAdHAdPAdSHAdTAdDAdJAdFAdGAA",
    "dHAAdTSAdZAdRAAdCHAdZHAcMANCHU IdKAdRAdFAdZHAcCHA WITH TWO DOTS@1880cALI GALI ANUSVARA ONE",
    "eVISARGA ~eDAMARUeUBADAMAeINVERTED UBADAMAeBALUDAeTHREE BALUDAeAeIeKAeNGAeCAeTTAeTTHAeDDAeNNA",
    "eTAeDAePAePHAeSSAeZHAeZAeAHcTODO ALI GALI TAfZHAcMANCHU ALI GALI GHAfNGAfCAfJHAfTTAfDDHAfTA",
    "fDHAfSSAfCYAfZHAfZAcALI GALI HALF UfYAcMANCHU ALI GALI BHAcALI GALI DAGALGA",
    "cMANCHU ALI GALI LHA@18B0aCANADIAN SYLLABICS OYcAYcAAYcWAYcPOYcPAYcPWOYcTAYcKAYcKWAYcMAYcNOY",
    "cNAYcLAYcSOYcSAYcSHOYcSHAYcSHWOYcYOYcYAYcRAYcNWIcOJIBWAY NWIcNWIIcOJIBWAY NWIIcNWO",
    "cOJIBWAY NWOcNWOOcOJIBWAY NWOOcRWEEcRWIcRWIIcRWOcRWOOcRWAcOJIBWAY PdTdKdCdMdNdSdSHcEASTERN W",
    "cWESTERN WcFINAL SMALL RINGdRAISED DOTcR-CREE RWEcWEST-CREE LOOeLAAcTHWEcTHWAcTTHWEcTTHOO",
    "cTTHAAcTLHWEcTLHOOcSAYISI SHWEdSHOOdHOOcCARRIER GWUdDENE GEEdGAAdGWAcSAYISI JUUcCARRIER JWA",
    "cBEAVER DENE LeRcCARRIER DENTAL S@1900aLIMBU VOWEL-CARRIER LETTERbLETTER KAcKHAcGAcGHAcNGAcCA",
    "cCHAcJAcJHAcYANcTAcTHAcDAcDHAcNAcPAcPHAcBAcBHAcMAcYAcRAcLAcWAcSHAcSSAcSAcHAcGYANcTRA",
    "@1920bVOWEL SIGN AdIdUdEEdAIdOOdAUdEdObSUBJOINED LETTER YAdRAdWA@1930bSMALL LETTER KAdNGA",
    "dANUSVARAdTAdNAdPAdMAdRAdLAbSIGN MUKPHRENGcKEMPHRENGcSA-I@1940cLOO@1944bEXCLAMATION MARK",
    "bQUESTION ~bDIGIT ZEROcONEcTWOcTHREEcFOURcFIVEcSIXcSEVENcEIGHTcNINEaTAI LE LETTER KAdXAdNGA",
    "dTSAdSAdYAdTAdTHAdLAdPAdPHAdMAdFAdVAdHAdQAdKHAdTSHAdNAdAdIdEEdEHdUdOOdOdUEdEdAUEdAI",
    "@1970dTONE-2e3e4e5e6@1980aNEW TAI LUE LETTER HIGH QAeLOW ~eHIGH KAfXAfNGAeLOW KAfXAfNGA",
    "eHIGH TSAfSAfYAeLOW TSAfSAfYAeHIGH TAfTHAfNAeLOW TAfTHAfNAeHIGH PAfPHAfMAeLOW PAfPHAfMA",
    "eHIGH FAfVAfLAeLOW FAfVAfLAeHIGH HAfDAfBAeLOW HAfDAfBAeHIGH KVAfXVAeLOW KVAfXVAeHIGH SUA",
    "eLOW ~@19B0dVOWEL SIGN VOWEL SHORTENERfAAfIIfUfUUfEfAEfOfOAfUEfAYfAAYfUYfOYfOAYfUEYfIY",
    "dLETTER FINAL VfNGfNfMfKfDfBdTONE MARK-1f2@19D0dDIGIT ZEROeONEeTWOeTHREEeFOUReFIVEeSIXeSEVEN",
    "eEIGHTeNINEdTHAM DIGIT ONE@19DEdSIGN LAEeLAEVaKHMER SYMBOL PATHAMASATcMUOY KOETcPII ~cBEI ~",
    "cBUON ~cPRAM ~cPRAM-MUOY KOETdPII ~dBEI ~dBUON ~cDAP KOETcDAP-MUOY KOETdPII ~dBEI ~dBUON ~",
    "dPRAM ~cTUTEYASATcMUOY ROCcPII ~cBEI ~cBUON ~cPRAM ~cPRAM-MUOY ROCdPII ~dBEI ~dBUON ~cDAP ROC",
    "cDAP-MUOY ROCdPII ~dBEI ~dBUON ~dPRAM ~aBUGINESE LETTER KAcGAcNGAcNGKAcPAcBAcMAcMPAcTAcDAcNA",
    "cNRAcCAcJAcNYAcNYCAcYAcRAcLAcVAcSAcAcHAbVOWEL SIGN IdUdEdOdAE@1A1EbPALLAWAbEND OF SECTION",
    "aTAI THAM LETTER HIGH KAeKHAeKXAdLOW KAeKXAeKHAdNGAdHIGH CAeCHAdLOW CAeSAeCHAdNYAdRATA",
    "dHIGH RATHAdDAdLOW RATHAdRANAdHIGH TAeTHAdLOW TAeTHAdNAdBAdHIGH PAePHAeFAdLOW PAeFAePHAdMA",
    "dLOW YAdHIGH ~dRAdRUEdLAdLUEdWAdHIGH SHAeSSAeSAeHAdLLAdAdLOW HAdIdIIdUdUUdEEdOOdLAEdGREAT SA",
    "cCONSONANT SIGN MEDIAL RAfLAeLA TANG LAIcSIGN MAI KANG LAIcCONSONANT SIGN FINAL NGAeLOW PA",
    "eHIGH RATHA OR LOW PAeMAeBAeSA@1A60cSIGN SAKOTcVOWEL SIGN AeMAI SATeAAeTALL AAeIeIIeUEeUUEeU",
    "eUUeOeOA BELOWeOYeEeAEeOOeAIeTHAM AIeOA ABOVEcSIGN MAI KANGdTONE-1e2dKHUEN TONE-3f4f5dRA HAAM",
    "dMAI SAMdKHUEN-LUE KARAN@1A7FcCOMBINING CRYPTOGRAMMIC DOTcHORA DIGIT ZEROeONEeTWOeTHREEeFOUR",
    "eFIVEeSIXeSEVENeEIGHTeNINE@1A90cTHAM DIGIT ZEROeONEeTWOeTHREEeFOUReFIVEeSIXeSEVENeEIGHTeNINE",
    "@1AA0cSIGN WIANGdWIANGWAAKdSAWANdKEOWdHOYdDOKMAIdREVERSED ROTATED RANAdMAI YAMOKdKAANdKAANKUU",
    "dSATKAANdSATKAANKUUdHANGdCAANG@1AB0aCOMBINING DOUBLED CIRCUMFLEX ACCENTbDIAERESIS-RING",
    "bINFINITYbDOWNWARDS ARROWbTRIPLE DOTbX-X BELOWbWIGGLY LINE ~bOPEN MARK ~",
    "bDOUBLE OPEN MARK BELOWbLIGHT CENTRALIZATION STROKE ~bSTRONG ~bPARENTHESES ABOVE",
    "bDOUBLE PARENTHESES ABOVEbPARENTHESES BELOWcOVERLAYbLATIN SMALL LETTER W BELOWeTURNED W BELOW",
    "bLEFT PARENTHESIS ABOVE LEFTbRIGHT PARENTHESIS ABOVE RIGHTbLEFT PARENTHESIS BELOW LEFT",
    "bRIGHT PARENTHESIS BELOW RIGHTbSQUARE BRACKETS ABOVEbNUMBER SIGN ~bINVERTED DOUBLE ARCH ABOVE",
    "bPLUS SIGN ABOVEbDOUBLE PLUS SIGN ABOVEeBELOWbTRIPLE ACUTE ACCENT",
    "bLATIN SMALL LETTER INSULAR GfRfT@1B00aBALINESE SIGN ULU RICEMdCANDRAcCECEKcSURANGcBISAH",
    "bLETTER AKARAcAKARA TEDUNGcIKARAcIKARA TEDUNGcUKARAcUKARA TEDUNGcRA REPAdREPA TEDUNGcLA LENGA",
    "dLENGA TEDUNGcEKARAcAIKARAcOKARAcOKARA TEDUNGcKAcKA MAHAPRANAcGAcGA GORAcNGAcCAcCA LACAcJA",
    "cJA JERAcNYAcTA LATIKdMURDA MAHAPRANAcDA MURDA ALPAPRANAeMAHAPRANAcNA RAMBATcTAcTA TAWAcDA",
    "cDA MADUcNAcPAcPA KAPALcBAcBA KEMBANGcMAcYAcRAcLAcWAcSA SAGAdSAPAcSAcHAbSIGN REREKAN",
    "bVOWEL SIGN TEDUNGdULUdULU SARIdSUKUdSUKU ILUTdRA REPAeREPA TEDUNGdLA LENGAeLENGA TEDUNG",
    "dTALINGdTALING REPAeTEDUNGeREPA TEDUNGdPEPETdPEPET TEDUNGbADEG ADEGbLETTER KAF SASAKcKHOT ~",
    "cTZIR ~cEF ~cVE ~cZAL ~cASYURA ~cARCHAIC JNYA@1B50bDIGIT ZEROcONEcTWOcTHREEcFOURcFIVEcSIX",
    "cSEVENcEIGHTcNINEbPANTIbPAMADAbWINDUbCARIK PAMUNGKAHcSIKIcPARERENbPAMENENG",
    "bMUSICAL SYMBOL DONGdDENGdDUNGdDANGdDANG SURANGdDINGdDAENGdDEUNGdDAINGdDANG GEDE",
    "dCOMBINING TEGEHeENDEPeKEMPULeKEMPLIeJEGOGANeKEMPUL WITH JEGOGANeKEMPLI ~eBENDEeGONG",
    "dRIGHT-HAND OPEN DUGgDAGfCLOSED TUKgTAKdLEFT-HAND OPEN PANGgPUNGfCLOSED PLAKgPLUKfOPEN PING",
    "bPANTI LANTANGbPAMADA ~@1B80aSUNDANESE SIGN PANYECEKcPANGLAYARcPANGWISADbLETTER AcIcUcAEcOcE",
    "cEUcKAcQAcGAcNGAcCAcJAcZAcNYAcTAcDAcNAcPAcFAcVAcBAcMAcYAcRAcLAcWAcSAcXAcHA",
    "bCONSONANT SIGN PAMINGKALdPANYAKRAdPANYIKUbVOWEL SIGN PANGHULUdPANYUKUdPANAELAENGdPANOLONG",
    "dPAMEPETdPANEULEUNGbSIGN PAMAAEHcVIRAMAbCONSONANT SIGN PASANGAN MAeWAbLETTER KHAcSYA",
    "bDIGIT ZEROcONEcTWOcTHREEcFOURcFIVEcSIXcSEVENcEIGHTcNINEbAVAGRAHAbLETTER REUcLEUcBHAcFINAL K",
    "dMaBATAK LETTER AcSIMALUNGUN AcHAcSIMALUNGUN HAcMANDAILING ~cBAcKARO BAcPAcSIMALUNGUN PAcNA",
    "cMANDAILING NAcWAcSIMALUNGUN WAcPAKPAK ~cGAcSIMALUNGUN GAcJAcDAcRAcSIMALUNGUN RAcMA",
    "cSIMALUNGUN MAcSOUTHERN TAcNORTHERN ~cSAcSIMALUNGUN SAcMANDAILING ~cYAcSIMALUNGUN YAcNGAcLA",
    "cSIMALUNGUN LAcNYAcCAcNDAcMBAcIcUbSIGN TOMPIbVOWEL SIGN EdPAKPAK EdEEdIdKARO IdOdKARO OdU",
    "dU FOR SIMALUNGUN SAbCONSONANT SIGN NGdHbPANGOLATbPANONGONAN@1BFCbSYMBOL BINDU NA METEK",
    "dPINARBORASdJUDULdPANGOLATaLEPCHA LETTER KAcKLAcKHAcGAcGLAcNGAcCAcCHAcJAcNYAcTAcTHAcDAcNAcPA",
    "cPLAcPHAcFAcFLAcBAcBLAcMAcMLAcTSAcTSHAcDZAcYAcRAcLAcHAcHLAcVAcSAcSHAcWAcAbSUBJOINED LETTER YA",
    "dRAbVOWEL SIGN AAdIdOdOOdUdUUdEbCONSONANT SIGN KdMdLdNdPdRdTdNYIN-DOdKANGbSIGN RANcNUKTA",
    "@1C3BbPUNCTUATION TA-ROLcNYET THYOOM TA-ROLcCER-WAcTSHOOK CER-WAcTSHOOKbDIGIT ZEROcONEcTWO",
    "cTHREEcFOURcFIVEcSIXcSEVENcEIGHTcNINE@1C4DbLETTER TTAcTTHAcDDAaOL CHIKI DIGIT ZEROdONEdTWO",
    "dTHREEdFOURdFIVEdSIXdSEVENdEIGHTdNINEcLETTER LAdATdAGdANGdALdLAAdAAKdAAJdAAMdAAWdLIdISdIHdINY",
    "dIRdLUdUCdUDdUNNdUYdLEdEPdEDDdENdERRdLOdOTTdOBdOVdOHcMU TTUDDAGcGAAHLAA TTUDDAAG",
    "cMU-GAAHLAA TTUDDAAGcRELAAcPHAARKAAcAHADcPUNCTUATION MUCAADdDOUBLE MUCAAD",
    "aCYRILLIC SMALL LETTER ROUNDED VEdLONG-LEGGED DEdNARROW OdWIDE ESdTALL TEdTHREE-LEGGED TE",
    "dTALL HARD SIGNeYATdUNBLENDED UK@1C90aGEORGIAN MTAVRULI CAPITAL LETTER ANeBANeGANeDONeENeVIN",
    "eZENeTANeINeKANeLASeMANeNAReONePAReZHAReRAEeSANeTAReUNePHAReKHAReGHANeQAReSHINeCHINeCANeJIL",
    "eCILeCHAReXANeJHANeHAEeHEeHIEeWEeHAReHOEeFIeYNeELIFIeTURNED GANeAIN@1CBDeAENeHARD SIGN",
    "eLABIAL ~aSUNDANESE PUNCTUATION BINDU SURYAdPANGLONGdPURNAMAdCAKRAdLEU SATANGAdKA ~dDA ~dBA ~",
    "@1CD0aVEDIC TONE KARSHANAcSHARAcPRENKHAbSIGN NIHSHVASAcYAJURVEDIC MIDLINE SVARITA",
    "bTONE YAJURVEDIC AGGRAVATED INDEPENDENT SVARITAdINDEPENDENT SVARITA",
    "dKATHAKA INDEPENDENT SVARITAcCANDRA BELOWcYAJURVEDIC KATHAKA INDEPENDENT SVARITA SCHROEDER",
    "cDOUBLE SVARITAcTRIPLE ~cKATHAKA ANUDATTAcDOT BELOWcTWO DOTS BELOWcTHREE ~",
    "cRIGVEDIC KASHMIRI INDEPENDENT SVARITAcATHARVAVEDIC INDEPENDENT SVARITAbSIGN VISARGA SVARITA",
    "dUDATTAcREVERSED VISARGA UDATTAcVISARGA ANUDATTAcREVERSED VISARGA ANUDATTA",
    "cVISARGA UDATTA WITH TAILdANUDATTA ~cANUSVARA ANTARGOMUKHAdBAHIRGOMUKHAdVAMAGOMUKHA",
    "dVAMAGOMUKHA WITH TAILcTIRYAKcHEXIFORM LONG ANUSVARAcLONG ANUSVARAcRTHANG LONG ANUSVARA",
    "cANUSVARA UBHAYATO MUKHAcARDHAVISARGAcROTATED ARDHAVISARGAbTONE CANDRA ABOVEbSIGN JIHVAMULIYA",
    "cUPADHMANIYAcATIKRAMAbTONE RING ABOVEcDOUBLE RING ABOVEbSIGN DOUBLE ANUSVARA ANTARGOMUKHA",
    "@1D00aLATIN LETTER SMALL CAPITAL AeAEbSMALL LETTER TURNED ~bLETTER SMALL CAPITAL BARRED BeCeD",
    "eETHeEbSMALL LETTER TURNED OPEN EeIbLETTER SMALL CAPITAL JeKeL WITH STROKEeMeREVERSED NeO",
    "eOPEN ObSMALL LETTER SIDEWAYS OeOPEN OeO WITH STROKEdTURNED OEbLETTER SMALL CAPITAL OU",
    "bSMALL LETTER TOP HALF OdBOTTOM ~bLETTER SMALL CAPITAL PeREVERSED ReTURNED ReTeU",
    "bSMALL LETTER SIDEWAYS UeDIAERESIZED UeTURNED MbLETTER SMALL CAPITAL VeWeZeEZH",
    "cVOICED LARYNGEAL SPIRANTcAINaGREEK LETTER SMALL CAPITAL GAMMAeLAMDAePIeRHOePSI",
    "aCYRILLIC LETTER SMALL CAPITAL ELaMODIFIER LETTER CAPITAL AdAEdBdBARRED BdDdEdREVERSED EdGdH",
    "dIdJdKdLdMdNdREVERSED NdOdOUdPdRdTdUdWcSMALL AdTURNED AdALPHAdTURNED AEdBdDdEdSCHWAdOPEN E",
    "dTURNED OPEN EdGdTURNED IdKdMdENGdOdOPEN OdTOP HALF OdBOTTOM ~dPdTdUdSIDEWAYS UdTURNED MdV",
    "dAINdBETAdGREEK GAMMAdDELTAdGREEK PHIdCHIaLATIN SUBSCRIPT SMALL LETTER IeReUeV",
    "aGREEK SUBSCRIPT SMALL LETTER BETAeGAMMAeRHOePHIeCHIaLATIN SMALL LETTER UE",
    "dB WITH MIDDLE TILDEdD ~dF ~dM ~dN ~dP ~dR ~fFISHHOOK AND MIDDLE TILDEdS WITH MIDDLE TILDE",
    "dT ~dZ ~dTURNED GaMODIFIER LETTER CYRILLIC ENaLATIN SMALL LETTER INSULAR G",
    "dTH WITH STRIKETHROUGHcCAPITAL LETTER I WITH STROKEcLETTER IOTA WITH STROKEdP ~",
    "cCAPITAL LETTER U WITH STROKEcLETTER UPSILON WITH STROKEdB WITH PALATAL HOOKdD ~dF ~dG ~dK ~",
    "dL ~dM ~dN ~dP ~dR ~dS ~dESH ~dV ~dX ~dZ ~dA WITH RETROFLEX ~dALPHA ~dD WITH HOOK AND TAIL",
    "dE WITH RETROFLEX HOOKdOPEN E WITH RETROFLEX HOOKdREVERSED OPEN E WITH RETROFLEX HOOK",
    "dSCHWA WITH RETROFLEX HOOKdI ~dOPEN O WITH RETROFLEX HOOKdESH WITH RETROFLEX HOOKdU ~dEZH ~",
    "aMODIFIER LETTER SMALL TURNED ALPHAdCdC WITH CURLdETHdREVERSED OPEN EdFdDOTLESS J WITH STROKE",
    "dSCRIPT GdTURNED HdI WITH STROKEdIOTAdCAPITAL IeI WITH STROKEdJ WITH CROSSED-TAIL",
    "dL WITH RETROFLEX HOOKfPALATAL ~dCAPITAL LdM WITH HOOKdTURNED M WITH LONG LEG",
    "dN WITH LEFT HOOKfRETROFLEX ~dCAPITAL NdBARRED OdPHIdS WITH HOOKdESHdT WITH PALATAL HOOK",
    "dU BARdUPSILONdCAPITAL UdV WITH HOOKdTURNED VdZdZ WITH RETROFLEX HOOKfCURLdEZHdTHETA",
    "aCOMBINING DOTTED GRAVE ACCENTcACUTE ~bSNAKE BELOWbSUSPENSION MARKbMACRON-ACUTEbGRAVE-MACRON",
    "bMACRON-GRAVEbACUTE-MACRONbGRAVE-ACUTE-GRAVEbACUTE-GRAVE-ACUTEbLATIN SMALL LETTER R BELOW",
    "bBREVE-MACRONbMACRON-BREVEbDOUBLE CIRCUMFLEX ABOVEbOGONEK ABOVEbZIGZAG BELOWbIS ~bUR ABOVE",
    "bUS ~bLATIN SMALL LETTER FLATTENED OPEN A ABOVEeAEeAOeAVeC CEDILLAeINSULAR DeETHeG",
    "cLETTER SMALL CAPITAL GcSMALL LETTER KeLcLETTER SMALL CAPITAL LfMcSMALL LETTER N",
    "cLETTER SMALL CAPITAL NfRcSMALL LETTER R ROTUNDAeSeLONG SeZeALPHAeBeBETAeSCHWAeF",
    "eL WITH DOUBLE MIDDLE TILDEeO WITH LIGHT CENTRALIZATION STROKEePeESH",
    "eU WITH LIGHT CENTRALIZATION STROKEeWeA WITH DIAERESISeO ~eU ~bUP TACK ABOVE",
    "bKAVYKA ABOVE RIGHTdLEFTbDOT ~bWIDE INVERTED BRIDGE BELOWbDOT BELOW LEFTbDELETION MARK",
    "bDOUBLE INVERTED BREVE BELOWbALMOST EQUAL TO ~bLEFT ARROWHEAD ABOVE",
    "bRIGHT ARROWHEAD AND DOWN ARROWHEAD BELOWaLATIN CAPITAL LETTER A WITH RING ~bSMALL ~",
    "bCAPITAL LETTER B WITH DOT ABOVEbSMALL ~bCAPITAL LETTER B WITH DOT BELOWbSMALL ~",
    "bCAPITAL LETTER B WITH LINE ~bSMALL ~bCAPITAL LETTER C WITH CEDILLA AND ACUTEbSMALL ~",
    "bCAPITAL LETTER D WITH DOT ABOVEbSMALL ~bCAPITAL LETTER D WITH DOT BELOWbSMALL ~",
    "bCAPITAL LETTER D WITH LINE ~bSMALL ~bCAPITAL LETTER D WITH CEDILLAbSMALL ~",
    "bCAPITAL LETTER D WITH CIRCUMFLEX BELOWbSMALL ~bCAPITAL LETTER E WITH MACRON AND GRAVE",
    "bSMALL ~bCAPITAL LETTER E WITH MACRON AND ACUTEbSMALL ~",
    "bCAPITAL LETTER E WITH CIRCUMFLEX BELOWbSMALL ~bCAPITAL LETTER E WITH TILDE ~bSMALL ~",
    "bCAPITAL LETTER E WITH CEDILLA AND BREVEbSMALL ~bCAPITAL LETTER F WITH DOT ABOVEbSMALL ~",
    "bCAPITAL LETTER G WITH MACRONbSMALL ~bCAPITAL LETTER H WITH DOT ABOVEbSMALL ~",
    "bCAPITAL LETTER H WITH DOT BELOWbSMALL ~bCAPITAL LETTER H WITH DIAERESISbSMALL ~",
    "bCAPITAL LETTER H WITH CEDILLAbSMALL ~bCAPITAL LETTER H WITH BREVE BELOWbSMALL ~",
    "bCAPITAL LETTER I WITH TILDE ~bSMALL ~bCAPITAL LETTER I WITH DIAERESIS AND ACUTEbSMALL ~",
    "bCAPITAL LETTER K WITH ACUTEbSMALL ~bCAPITAL LETTER K WITH DOT BELOWbSMALL ~",
    "bCAPITAL LETTER K WITH LINE ~bSMALL ~bCAPITAL LETTER L WITH DOT ~bSMALL ~",
    "bCAPITAL LETTER L WITH DOT BELOW AND MACRONbSMALL ~bCAPITAL LETTER L WITH LINE BELOWbSMALL ~",
    "bCAPITAL LETTER L WITH CIRCUMFLEX ~bSMALL ~bCAPITAL LETTER M WITH ACUTEbSMALL ~",
    "bCAPITAL LETTER M WITH DOT ABOVEbSMALL ~bCAPITAL LETTER M WITH DOT BELOWbSMALL ~",
    "bCAPITAL LETTER N WITH DOT ABOVEbSMALL ~bCAPITAL LETTER N WITH DOT BELOWbSMALL ~",
    "bCAPITAL LETTER N WITH LINE ~bSMALL ~bCAPITAL LETTER N WITH CIRCUMFLEX ~bSMALL ~",
    "bCAPITAL LETTER O WITH TILDE AND ACUTEbSMALL ~bCAPITAL LETTER O WITH TILDE AND DIAERESIS",
    "bSMALL ~bCAPITAL LETTER O WITH MACRON AND GRAVEbSMALL ~",
    "bCAPITAL LETTER O WITH MACRON AND ACUTEbSMALL ~bCAPITAL LETTER P WITH ACUTEbSMALL ~",
    "bCAPITAL LETTER P WITH DOT ABOVEbSMALL ~bCAPITAL LETTER R ~bSMALL ~",
    "bCAPITAL LETTER R WITH DOT BELOWbSMALL ~bCAPITAL LETTER R WITH DOT BELOW AND MACRONbSMALL ~",
    "bCAPITAL LETTER R WITH LINE BELOWbSMALL ~bCAPITAL LETTER S WITH DOT ABOVEbSMALL ~",
    "bCAPITAL LETTER S WITH DOT BELOWbSMALL ~bCAPITAL LETTER S WITH ACUTE AND DOT ABOVEbSMALL ~",
    "bCAPITAL LETTER S WITH CARON ~bSMALL ~bCAPITAL LETTER S WITH DOT BELOW AND DOT ABOVEbSMALL ~",
    "bCAPITAL LETTER T WITH DOT ABOVEbSMALL ~bCAPITAL LETTER T WITH DOT BELOWbSMALL ~",
    "bCAPITAL LETTER T WITH LINE ~bSMALL ~bCAPITAL LETTER T WITH CIRCUMFLEX ~bSMALL ~",
    "bCAPITAL LETTER U WITH DIAERESIS ~bSMALL ~bCAPITAL LETTER U WITH TILDE ~bSMALL ~",
    "bCAPITAL LETTER U WITH CIRCUMFLEX ~bSMALL ~bCAPITAL LETTER U WITH TILDE AND ACUTEbSMALL ~",
    "bCAPITAL LETTER U WITH MACRON AND DIAERESISbSMALL ~bCAPITAL LETTER V WITH TILDEbSMALL ~",
    "bCAPITAL LETTER V WITH DOT BELOWbSMALL ~bCAPITAL LETTER W WITH GRAVEbSMALL ~",
    "bCAPITAL LETTER W WITH ACUTEbSMALL ~bCAPITAL LETTER W WITH DIAERESISbSMALL ~",
    "bCAPITAL LETTER W WITH DOT ABOVEbSMALL ~bCAPITAL LETTER W WITH DOT BELOWbSMALL ~",
    "bCAPITAL LETTER X WITH DOT ABOVEbSMALL ~bCAPITAL LETTER X WITH DIAERESISbSMALL ~",
    "bCAPITAL LETTER Y WITH DOT ABOVEbSMALL ~bCAPITAL LETTER Z WITH CIRCUMFLEXbSMALL ~",
    "bCAPITAL LETTER Z WITH DOT BELOWbSMALL ~bCAPITAL LETTER Z WITH LINE ~bSMALL ~dH ~",
    "dT WITH DIAERESISdW WITH RING ABOVEdY ~dA WITH RIGHT HALF RINGdLONG S WITH DOT ABOVE",
    "gDIAGONAL STROKEgHIGH ~bCAPITAL LETTER SHARP SbSMALL LETTER DELTA",
    "bCAPITAL LETTER A WITH DOT BELOWbSMALL ~bCAPITAL LETTER A WITH HOOK ABOVEbSMALL ~",
    "bCAPITAL LETTER A WITH CIRCUMFLEX AND ACUTEbSMALL ~",
    "bCAPITAL LETTER A WITH CIRCUMFLEX AND GRAVEbSMALL ~",
    "bCAPITAL LETTER A WITH CIRCUMFLEX AND HOOK ABOVEbSMALL ~",
    "bCAPITAL LETTER A WITH CIRCUMFLEX AND TILDEbSMALL ~",
    "bCAPITAL LETTER A WITH CIRCUMFLEX AND DOT BELOWbSMALL ~bCAPITAL LETTER A WITH BREVE AND ACUTE",
    "bSMALL ~bCAPITAL LETTER A WITH BREVE AND GRAVEbSMALL ~",
    "bCAPITAL LETTER A WITH BREVE AND HOOK ABOVEbSMALL ~bCAPITAL LETTER A WITH BREVE AND TILDE",
    "bSMALL ~bCAPITAL LETTER A WITH BREVE AND DOT BELOWbSMALL ~bCAPITAL LETTER E WITH DOT BELOW",
    "bSMALL ~bCAPITAL LETTER E WITH HOOK ABOVEbSMALL ~bCAPITAL LETTER E WITH TILDEbSMALL ~",
    "bCAPITAL LETTER E WITH CIRCUMFLEX AND ACUTEbSMALL ~",
    "bCAPITAL LETTER E WITH CIRCUMFLEX AND GRAVEbSMALL ~",
    "bCAPITAL LETTER E WITH CIRCUMFLEX AND HOOK ABOVEbSMALL ~",
    "bCAPITAL LETTER E WITH CIRCUMFLEX AND TILDEbSMALL ~",
    "bCAPITAL LETTER E WITH CIRCUMFLEX AND DOT BELOWbSMALL ~bCAPITAL LETTER I WITH HOOK ABOVE",
    "bSMALL ~bCAPITAL LETTER I WITH DOT BELOWbSMALL ~bCAPITAL LETTER O ~bSMALL ~",
    "bCAPITAL LETTER O WITH HOOK ABOVEbSMALL ~bCAPITAL LETTER O WITH CIRCUMFLEX AND ACUTEbSMALL ~",
    "bCAPITAL LETTER O WITH CIRCUMFLEX AND GRAVEbSMALL ~",
    "bCAPITAL LETTER O WITH CIRCUMFLEX AND HOOK ABOVEbSMALL ~",
    "bCAPITAL LETTER O WITH CIRCUMFLEX AND TILDEbSMALL ~",
    "bCAPITAL LETTER O WITH CIRCUMFLEX AND DOT BELOWbSMALL ~bCAPITAL LETTER O WITH HORN AND ACUTE",
    "bSMALL ~bCAPITAL LETTER O WITH HORN AND GRAVEbSMALL ~",
    "bCAPITAL LETTER O WITH HORN AND HOOK ABOVEbSMALL ~bCAPITAL LETTER O WITH HORN AND TILDE",
    "bSMALL ~bCAPITAL LETTER O WITH HORN AND DOT BELOWbSMALL ~bCAPITAL LETTER U WITH DOT BELOW",
    "bSMALL ~bCAPITAL LETTER U WITH HOOK ABOVEbSMALL ~bCAPITAL LETTER U WITH HORN AND ACUTE",
    "bSMALL ~bCAPITAL LETTER U WITH HORN AND GRAVEbSMALL ~",
    "bCAPITAL LETTER U WITH HORN AND HOOK ABOVEbSMALL ~bCAPITAL LETTER U WITH HORN AND TILDE",
    "bSMALL ~bCAPITAL LETTER U WITH HORN AND DOT BELOWbSMALL ~bCAPITAL LETTER Y WITH GRAVEbSMALL ~",
    "bCAPITAL LETTER Y WITH DOT BELOWbSMALL ~bCAPITAL LETTER Y WITH HOOK ABOVEbSMALL ~",
    "bCAPITAL LETTER Y WITH TILDEbSMALL ~bCAPITAL LETTER MIDDLE-WELSH LLbSMALL ~",
    "bCAPITAL LETTER MIDDLE-WELSH VbSMALL ~bCAPITAL LETTER Y WITH LOOPbSMALL ~",
    "aGREEK SMALL LETTER ALPHA WITH PSILIfDASIAfPSILI AND VARIAfDASIA ~fPSILI AND OXIAfDASIA ~",
    "fPSILI AND PERISPOMENIfDASIA ~bCAPITAL LETTER ALPHA WITH PSILIfDASIAfPSILI AND VARIAfDASIA ~",
    "fPSILI AND OXIAfDASIA ~fPSILI AND PERISPOMENIfDASIA ~bSMALL LETTER EPSILON WITH PSILIfDASIA",
    "fPSILI AND VARIAfDASIA ~fPSILI AND OXIAfDASIA ~@1F18bCAPITAL LETTER EPSILON WITH PSILIfDASIA",
    "fPSILI AND VARIAfDASIA ~fPSILI AND OXIAfDASIA ~@1F20bSMALL LETTER ETA WITH PSILIfDASIA",
    "fPSILI AND VARIAfDASIA ~fPSILI AND OXIAfDASIA ~fPSILI AND PERISPOMENIfDASIA ~",
    "bCAPITAL LETTER ETA WITH PSILIfDASIAfPSILI AND VARIAfDASIA ~fPSILI AND OXIAfDASIA ~",
    "fPSILI AND PERISPOMENIfDASIA ~bSMALL LETTER IOTA WITH PSILIfDASIAfPSILI AND VARIAfDASIA ~",
    "fPSILI AND OXIAfDASIA ~fPSILI AND PERISPOMENIfDASIA ~bCAPITAL LETTER IOTA WITH PSILIfDASIA",
    "fPSILI AND VARIAfDASIA ~fPSILI AND OXIAfDASIA ~fPSILI AND PERISPOMENIfDASIA ~",
    "bSMALL LETTER OMICRON WITH PSILIfDASIAfPSILI AND VARIAfDASIA ~fPSILI AND OXIAfDASIA ~",
    "@1F48bCAPITAL LETTER OMICRON WITH PSILIfDASIAfPSILI AND VARIAfDASIA ~fPSILI AND OXIAfDASIA ~",
    "@1F50bSMALL LETTER UPSILON WITH PSILIfDASIAfPSILI AND VARIAfDASIA ~fPSILI AND OXIAfDASIA ~",
    "fPSILI AND PERISPOMENIfDASIA ~@1F59bCAPITAL LETTER UPSILON WITH DASIA@1F5BfDASIA AND VARIA",
    "@1F5DhOXIA@1F5FhPERISPOMENIbSMALL LETTER OMEGA WITH PSILIfDASIAfPSILI AND VARIAfDASIA ~",
    "fPSILI AND OXIAfDASIA ~fPSILI AND PERISPOMENIfDASIA ~bCAPITAL LETTER OMEGA WITH PSILIfDASIA",
    "fPSILI AND VARIAfDASIA ~fPSILI AND OXIAfDASIA ~fPSILI AND PERISPOMENIfDASIA ~",
    "bSMALL LETTER ALPHA WITH VARIAfOXIAdEPSILON WITH VARIAfOXIAdETA WITH VARIAfOXIA",
    "dIOTA WITH VARIAfOXIAdOMICRON WITH VARIAfOXIAdUPSILON WITH VARIAfOXIAdOMEGA WITH VARIAfOXIA",
    "@1F80dALPHA WITH PSILI AND YPOGEGRAMMENIfDASIA ~fPSILI AND VARIA AND YPOGEGRAMMENIfDASIA ~",
    "fPSILI AND OXIA ~fDASIA ~fPSILI AND PERISPOMENI ~fDASIA ~",
    "bCAPITAL LETTER ALPHA WITH PSILI AND PROSGEGRAMMENIfDASIA ~",
    "fPSILI AND VARIA AND PROSGEGRAMMENIfDASIA ~fPSILI AND OXIA ~fDASIA ~fPSILI AND PERISPOMENI ~",
    "fDASIA ~bSMALL LETTER ETA WITH PSILI AND YPOGEGRAMMENIfDASIA ~",
    "fPSILI AND VARIA AND YPOGEGRAMMENIfDASIA ~fPSILI AND OXIA ~fDASIA ~fPSILI AND PERISPOMENI ~",
    "fDASIA ~bCAPITAL LETTER ETA WITH PSILI AND PROSGEGRAMMENIfDASIA ~",
    "fPSILI AND VARIA AND PROSGEGRAMMENIfDASIA ~fPSILI AND OXIA ~fDASIA ~fPSILI AND PERISPOMENI ~",
    "fDASIA ~bSMALL LETTER OMEGA WITH PSILI AND YPOGEGRAMMENIfDASIA ~",
    "fPSILI AND VARIA AND YPOGEGRAMMENIfDASIA ~fPSILI AND OXIA ~fDASIA ~fPSILI AND PERISPOMENI ~",
    "fDASIA ~bCAPITAL LETTER OMEGA WITH PSILI AND PROSGEGRAMMENIfDASIA ~",
    "fPSILI AND VARIA AND PROSGEGRAMMENIfDASIA ~fPSILI AND OXIA ~fDASIA ~fPSILI AND PERISPOMENI ~",
    "fDASIA ~bSMALL LETTER ALPHA WITH VRACHYfMACRONfVARIA AND YPOGEGRAMMENIfYPOGEGRAMMENI",
    "fOXIA AND YPOGEGRAMMENI@1FB6fPERISPOMENIfPERISPOMENI AND YPOGEGRAMMENI",
    "bCAPITAL LETTER ALPHA WITH VRACHYfMACRONfVARIAfOXIAfPROSGEGRAMMENIbKORONISbPROSGEGRAMMENI",
    "bPSILIbPERISPOMENIbDIALYTIKA AND PERISPOMENIbSMALL LETTER ETA WITH VARIA AND YPOGEGRAMMENI",
    "fYPOGEGRAMMENIfOXIA AND YPOGEGRAMMENI@1FC6fPERISPOMENIfPERISPOMENI AND YPOGEGRAMMENI",
    "bCAPITAL LETTER EPSILON WITH VARIAfOXIAdETA WITH VARIAfOXIAfPROSGEGRAMMENIbPSILI AND VARIA",
    "dOXIAdPERISPOMENIbSMALL LETTER IOTA WITH VRACHYfMACRONfDIALYTIKA AND VARIAhOXIA",
    "@1FD6fPERISPOMENIfDIALYTIKA AND PERISPOMENIbCAPITAL LETTER IOTA WITH VRACHYfMACRONfVARIAfOXIA",
    "@1FDDbDASIA AND VARIAdOXIAdPERISPOMENIbSMALL LETTER UPSILON WITH VRACHYfMACRON",
    "fDIALYTIKA AND VARIAhOXIAdRHO WITH PSILIfDASIAdUPSILON WITH PERISPOMENI",
    "fDIALYTIKA AND PERISPOMENIbCAPITAL LETTER UPSILON WITH VRACHYfMACRONfVARIAfOXIA",
    "dRHO WITH DASIAbDIALYTIKA AND VARIAdOXIAbVARIA",
    "@1FF2bSMALL LETTER OMEGA WITH VARIA AND YPOGEGRAMMENIfYPOGEGRAMMENIfOXIA AND YPOGEGRAMMENI",
    "@1FF6fPERISPOMENIfPERISPOMENI AND YPOGEGRAMMENIbCAPITAL LETTER OMICRON WITH VARIAfOXIA",
    "dOMEGA WITH VARIAfOXIAfPROSGEGRAMMENIbOXIAbDASIA@2000aEN QUADaEM ~aEN SPACEaEM ~",
    "aTHREE-PER-EM SPACEaFOUR-~aSIX-~aFIGURE SPACEaPUNCTUATION ~aTHIN ~aHAIR ~aZERO WIDTH SPACE",
    "cNON-JOINERcJOINERaLEFT-TO-RIGHT MARKaRIGHT-TO-LEFT ~aHYPHENaNON-BREAKING HYPHENaFIGURE DASH",
    "aEN ~aEM ~aHORIZONTAL BARaDOUBLE VERTICAL LINEbLOW ~aLEFT SINGLE QUOTATION MARKaRIGHT ~",
    "aSINGLE LOW-9 QUOTATION MARKbHIGH-REVERSED-9 QUOTATION MARKaLEFT DOUBLE QUOTATION MARK",
    "aRIGHT ~aDOUBLE LOW-9 QUOTATION MARKbHIGH-REVERSED-9 QUOTATION MARKaDAGGERaDOUBLE DAGGER",
    "aBULLETaTRIANGULAR BULLETaONE DOT LEADERaTWO ~aHORIZONTAL ELLIPSISaHYPHENATION POINT",
    "aLINE SEPARATORaPARAGRAPH ~aLEFT-TO-RIGHT EMBEDDINGaRIGHT-TO-LEFT ~",
    "aPOP DIRECTIONAL FORMATTINGaLEFT-TO-RIGHT OVERRIDEaRIGHT-TO-LEFT ~aNARROW NO-BREAK SPACE",
    "aPER MILLE SIGNbTEN THOUSAND SIGNaPRIMEaDOUBLE PRIMEaTRIPLE ~aREVERSED ~bDOUBLE PRIME",
    "bTRIPLE ~aCARETaSINGLE LEFT-POINTING ANGLE QUOTATION MARKbRIGHT-~aREFERENCE MARK",
    "aDOUBLE EXCLAMATION MARKaINTERROBANGaOVERLINEaUNDERTIEaCHARACTER TIEaCARET INSERTION POINT",
    "aASTERISMaHYPHEN BULLETaFRACTION SLASHaLEFT SQUARE BRACKET WITH QUILLaRIGHT ~",
    "aDOUBLE QUESTION MARKaQUESTION EXCLAMATION ~aEXCLAMATION QUESTION ~aTIRONIAN SIGN ET",
    "aREVERSED PILCROW SIGNaBLACK LEFTWARDS BULLETbRIGHTWARDS ~aLOW ASTERISKaREVERSED SEMICOLON",
    "aCLOSE UPaTWO ASTERISKS ALIGNED VERTICALLYaCOMMERCIAL MINUS SIGNaSWUNG DASHaINVERTED UNDERTIE",
    "aFLOWER PUNCTUATION MARKaTHREE DOT PUNCTUATIONaQUADRUPLE PRIMEaFOUR DOT PUNCTUATIONaFIVE ~",
    "aTWO ~aFOUR DOT MARKaDOTTED CROSSaTRICOLONaVERTICAL FOUR DOTSaMEDIUM MATHEMATICAL SPACE",
    "aWORD JOINERaFUNCTION APPLICATIONaINVISIBLE TIMESbSEPARATORbPLUS@2066aLEFT-TO-RIGHT ISOLATE",
    "aRIGHT-TO-LEFT ~aFIRST STRONG ISOLATEaPOP DIRECTIONAL ~aINHIBIT SYMMETRIC SWAPPINGaACTIVATE ~",
    "aINHIBIT ARABIC FORM SHAPINGaACTIVATE ~aNATIONAL DIGIT SHAPESaNOMINAL ~aSUPERSCRIPT ZERO",
    "bLATIN SMALL LETTER I@2074bFOURbFIVEbSIXbSEVENbEIGHTbNINEbPLUS SIGNbMINUSbEQUALS SIGN",
    "bLEFT PARENTHESISbRIGHT ~bLATIN SMALL LETTER NaSUBSCRIPT ZERObONEbTWObTHREEbFOURbFIVEbSIX",
    "bSEVENbEIGHTbNINEbPLUS SIGNbMINUSbEQUALS SIGNbLEFT PARENTHESISbRIGHT ~",
    "@2090aLATIN SUBSCRIPT SMALL LETTER AeEeOeXeSCHWAeHeKeLeMeNePeSeT@20A0aEURO-CURRENCY SIGN",
    "aCOLON SIGNaCRUZEIRO ~aFRENCH FRANC SIGNaLIRA SIGNaMILL ~aNAIRA ~aPESETA ~aRUPEE ~aWON ~",
    "aNEW SHEQEL SIGNaDONG SIGNaEURO ~aKIP ~aTUGRIK ~aDRACHMA ~aGERMAN PENNY SIGNaPESO SIGN",
    "aGUARANI ~aAUSTRAL ~aHRYVNIA ~aCEDI ~aLIVRE TOURNOIS SIGNaSPESMILO SIGNaTENGE ~",
    "aINDIAN RUPEE SIGNaTURKISH LIRA ~aNORDIC MARK ~aMANAT SIGNaRUBLE ~aLARI ~aBITCOIN ~aSOM ~",
    "@20D0aCOMBINING LEFT HARPOON ABOVEbRIGHT ~bLONG VERTICAL LINE OVERLAYbSHORT ~",
    "bANTICLOCKWISE ARROW ABOVEbCLOCKWISE ~bLEFT ~bRIGHT ~bRING OVERLAYbCLOCKWISE RING OVERLAY",
    "bANTICLOCKWISE ~bTHREE DOTS ABOVEbFOUR ~bENCLOSING CIRCLEcSQUAREcDIAMONDcCIRCLE BACKSLASH",
    "bLEFT RIGHT ARROW ABOVEbENCLOSING SCREENcKEYCAPcUPWARD POINTING TRIANGLE",
    "bREVERSE SOLIDUS OVERLAYbDOUBLE VERTICAL STROKE OVERLAYbANNUITY SYMBOLbTRIPLE UNDERDOT",
    "bWIDE BRIDGE ABOVEbLEFTWARDS ARROW OVERLAYbLONG DOUBLE SOLIDUS OVERLAY",
    "bRIGHTWARDS HARPOON WITH BARB DOWNWARDSbLEFTWARDS ~bLEFT ARROW BELOWbRIGHT ~bASTERISK ABOVE",
    "@2100aACCOUNT OFaADDRESSED TO THE SUBJECTaDOUBLE-STRUCK CAPITAL CaDEGREE CELSIUS",
    "aCENTRE LINE SYMBOLaCARE OFaCADA UNAaEULER CONSTANTaSCRUPLEaDEGREE FAHRENHEITaSCRIPT SMALL G",
    "bCAPITAL HaBLACK-LETTER CAPITAL HaDOUBLE-STRUCK ~aPLANCK CONSTANTbCONSTANT OVER TWO PI",
    "aSCRIPT CAPITAL IaBLACK-LETTER CAPITAL IaSCRIPT CAPITAL LbSMALL LaL B BAR SYMBOL",
    "aDOUBLE-STRUCK CAPITAL NaNUMERO SIGNaSOUND RECORDING COPYRIGHTaSCRIPT CAPITAL P",
    "aDOUBLE-STRUCK CAPITAL PdQaSCRIPT CAPITAL RaBLACK-LETTER CAPITAL RaDOUBLE-STRUCK ~",
    "aPRESCRIPTION TAKEaRESPONSEaSERVICE MARKaTELEPHONE SIGNaTRADE MARK SIGNaVERSICLE",
    "aDOUBLE-STRUCK CAPITAL ZaOUNCE SIGNaOHM ~aINVERTED OHM SIGNaBLACK-LETTER CAPITAL Z",
    "aTURNED GREEK SMALL LETTER IOTAaKELVIN SIGNaANGSTROM ~aSCRIPT CAPITAL B",
    "aBLACK-LETTER CAPITAL CaESTIMATED SYMBOLaSCRIPT SMALL EbCAPITAL EcFaTURNED ~aSCRIPT CAPITAL M",
    "bSMALL OaALEF SYMBOLaBET ~aGIMEL ~aDALET ~aINFORMATION SOURCEaROTATED CAPITAL Q",
    "aFACSIMILE SIGNaDOUBLE-STRUCK SMALL PIdGAMMAcCAPITAL ~dPIcN-ARY SUMMATION",
    "aTURNED SANS-SERIF CAPITAL GeLaREVERSED ~aTURNED SANS-SERIF CAPITAL Y",
    "aDOUBLE-STRUCK ITALIC CAPITAL DdSMALL DeEeIeJaPROPERTY LINEaTURNED AMPERSANDaPER SIGN",
    "aAKTIESELSKABaTURNED SMALL FaSYMBOL FOR SAMARITAN SOURCEaVULGAR FRACTION ONE SEVENTHdNINTH",
    "dTENTHdTHIRDcTWO THIRDScONE FIFTHcTWO FIFTHScTHREE ~cFOUR ~cONE SIXTHcFIVE SIXTHScONE EIGHTH",
    "cTHREE EIGHTHScFIVE ~cSEVEN ~aFRACTION NUMERATOR ONEaROMAN NUMERAL ~cTWOcTHREEcFOURcFIVEcSIX",
    "cSEVENcEIGHTcNINEcTENcELEVENcTWELVEcFIFTYcONE HUNDREDcFIVE ~cONE THOUSAND",
    "aSMALL ROMAN NUMERAL ONEdTWOdTHREEdFOURdFIVEdSIXdSEVENdEIGHTdNINEdTENdELEVENdTWELVEdFIFTY",
    "dONE HUNDREDdFIVE ~dONE THOUSANDaROMAN NUMERAL ONE THOUSAND C DcFIVE THOUSANDcTEN ~",
    "cREVERSED ONE HUNDREDaLATIN SMALL LETTER REVERSED CaROMAN NUMERAL SIX LATE FORMcFIFTY EARLY ~",
    "dTHOUSANDcONE HUNDRED THOUSANDaVULGAR FRACTION ZERO THIRDSaTURNED DIGIT TWOcTHREE",
    "@2190aLEFTWARDS ARROWaUPWARDS ~aRIGHTWARDS ~aDOWNWARDS ~aLEFT RIGHT ARROWaUP DOWN ~",
    "aNORTH WEST ~bEAST ~aSOUTH ~bWEST ~aLEFTWARDS ARROW WITH STROKEaRIGHTWARDS ~",
    "aLEFTWARDS WAVE ARROWaRIGHTWARDS ~aLEFTWARDS TWO HEADED ARROWaUPWARDS ~aRIGHTWARDS ~",
    "aDOWNWARDS ~aLEFTWARDS ARROW WITH TAILaRIGHTWARDS ~aLEFTWARDS ARROW FROM BARaUPWARDS ~",
    "aRIGHTWARDS ~aDOWNWARDS ~aUP DOWN ARROW WITH BASEaLEFTWARDS ARROW WITH HOOKaRIGHTWARDS ~",
    "aLEFTWARDS ARROW WITH LOOPaRIGHTWARDS ~aLEFT RIGHT WAVE ARROWcARROW WITH STROKE",
    "aDOWNWARDS ZIGZAG ARROWaUPWARDS ARROW WITH TIP LEFTWARDSeRIGHTWARDS",
    "aDOWNWARDS ARROW WITH TIP LEFTWARDSeRIGHTWARDSaRIGHTWARDS ARROW WITH CORNER DOWNWARDS",
    "aDOWNWARDS ARROW WITH CORNER LEFTWARDSaANTICLOCKWISE TOP SEMICIRCLE ARROWaCLOCKWISE ~",
    "aNORTH WEST ARROW TO LONG BARaLEFTWARDS ARROW TO BAR OVER RIGHTWARDS ARROW TO BAR",
    "aANTICLOCKWISE OPEN CIRCLE ARROWaCLOCKWISE ~aLEFTWARDS HARPOON WITH BARB UPWARDSeDOWNWARDS",
    "aUPWARDS HARPOON WITH BARB RIGHTWARDSeLEFTWARDSaRIGHTWARDS HARPOON WITH BARB UPWARDS",
    "eDOWNWARDSaDOWNWARDS HARPOON WITH BARB RIGHTWARDSeLEFTWARDS",
    "aRIGHTWARDS ARROW OVER LEFTWARDS ARROWaUPWARDS ARROW LEFTWARDS OF DOWNWARDS ARROW",
    "aLEFTWARDS ARROW OVER RIGHTWARDS ARROWbPAIRED ARROWSaUPWARDS ~aRIGHTWARDS ~aDOWNWARDS ~",
    "aLEFTWARDS HARPOON OVER RIGHTWARDS HARPOONaRIGHTWARDS HARPOON OVER LEFTWARDS ~",
    "aLEFTWARDS DOUBLE ARROW WITH STROKEaLEFT RIGHT DOUBLE ARROW WITH STROKE",
    "aRIGHTWARDS DOUBLE ARROW WITH STROKEaLEFTWARDS DOUBLE ARROWaUPWARDS ~aRIGHTWARDS ~",
    "aDOWNWARDS ~aLEFT RIGHT DOUBLE ARROWaUP DOWN ~aNORTH WEST ~bEAST ~aSOUTH ~bWEST ~",
    "aLEFTWARDS TRIPLE ARROWaRIGHTWARDS ~aLEFTWARDS SQUIGGLE ~aRIGHTWARDS ~",
    "aUPWARDS ARROW WITH DOUBLE STROKEaDOWNWARDS ~aLEFTWARDS DASHED ARROWaUPWARDS ~aRIGHTWARDS ~",
    "aDOWNWARDS ~aLEFTWARDS ARROW TO BARaRIGHTWARDS ~aLEFTWARDS WHITE ARROWaUPWARDS ~aRIGHTWARDS ~",
    "aDOWNWARDS ~aUPWARDS WHITE ARROW FROM BARdON PEDESTALePEDESTAL WITH HORIZONTAL BARgVERTICAL ~",
    "cDOUBLE ARROWdARROW ON PEDESTALaRIGHTWARDS WHITE ARROW FROM WALLaNORTH WEST ARROW TO CORNER",
    "aSOUTH EAST ~aUP DOWN WHITE ARROWaRIGHT ARROW WITH SMALL CIRCLE",
    "aDOWNWARDS ARROW LEFTWARDS OF UPWARDS ARROWaTHREE RIGHTWARDS ARROWS",
    "aLEFTWARDS ARROW WITH VERTICAL STROKEaRIGHTWARDS ~aLEFT RIGHT ARROW WITH VERTICAL STROKE",
    "aLEFTWARDS ARROW WITH DOUBLE ~aRIGHTWARDS ~aLEFT RIGHT ARROW WITH DOUBLE VERTICAL STROKE",
    "aLEFTWARDS OPEN-HEADED ARROWaRIGHTWARDS ~aLEFT RIGHT OPEN-HEADED ARROWaFOR ALLaCOMPLEMENT",
    "aPARTIAL DIFFERENTIALaTHERE EXISTSbDOES NOT EXISTaEMPTY SETaINCREMENTaNABLAaELEMENT OF",
    "aNOT AN ELEMENT OFaSMALL ELEMENT OFaCONTAINS AS MEMBERaDOES NOT CONTAIN AS MEMBER",
    "aSMALL CONTAINS AS MEMBERaEND OF PROOFaN-ARY PRODUCTcCOPRODUCTcSUMMATIONaMINUS SIGN",
    "aMINUS-OR-PLUS SIGNaDOT PLUSaDIVISION SLASHaSET MINUSaASTERISK OPERATORaRING ~aBULLET ~",
    "aSQUARE ROOTaCUBE ~aFOURTH ~aPROPORTIONAL TOaINFINITYaRIGHT ANGLEaANGLEaMEASURED ANGLE",
    "aSPHERICAL ~aDIVIDESaDOES NOT DIVIDEaPARALLEL TOaNOT PARALLEL TOaLOGICAL ANDbORaINTERSECTION",
    "aUNIONaINTEGRALaDOUBLE INTEGRALaTRIPLE ~aCONTOUR ~aSURFACE ~aVOLUME ~aCLOCKWISE ~",
    "bCONTOUR INTEGRALaANTICLOCKWISE ~aTHEREFOREaBECAUSEaRATIOaPROPORTIONaDOT MINUSaEXCESS",
    "aGEOMETRIC PROPORTIONaHOMOTHETICaTILDE OPERATORaREVERSED TILDEaINVERTED LAZY SaSINE WAVE",
    "aWREATH PRODUCTaNOT TILDEaMINUS ~aASYMPTOTICALLY EQUAL TOaNOT ASYMPTOTICALLY EQUAL TO",
    "aAPPROXIMATELY EQUAL TObBUT NOT ACTUALLY EQUAL TOaNEITHER APPROXIMATELY NOR ~aALMOST EQUAL TO",
    "aNOT ALMOST EQUAL TOaALMOST EQUAL OR EQUAL TOaTRIPLE TILDEaALL EQUAL TOaEQUIVALENT TO",
    "aGEOMETRICALLY EQUIVALENT TOaDIFFERENCE BETWEENaAPPROACHES THE LIMITaGEOMETRICALLY EQUAL TO",
    "aAPPROXIMATELY EQUAL TO OR THE IMAGE OFaIMAGE OF OR APPROXIMATELY EQUAL TOaCOLON EQUALS",
    "aEQUALS COLONaRING IN EQUAL TObEQUAL TOaCORRESPONDS TOaESTIMATESaEQUIANGULAR TOaSTAR EQUALS",
    "aDELTA EQUAL TOaEQUAL TO BY DEFINITIONaMEASURED BYaQUESTIONED EQUAL TOaNOT ~aIDENTICAL TO",
    "aNOT IDENTICAL TOaSTRICTLY EQUIVALENT ~aLESS-THAN OR EQUAL TOaGREATER-~aLESS-THAN OVER ~",
    "aGREATER-~aLESS-THAN BUT NOT EQUAL TOaGREATER-~aMUCH LESS-THANbGREATER-~aBETWEEN",
    "aNOT EQUIVALENT TObLESS-THANbGREATER-~aNEITHER LESS-THAN NOR EQUAL TObGREATER-~",
    "aLESS-THAN OR EQUIVALENT TOaGREATER-~aNEITHER LESS-THAN NOR EQUIVALENT TObGREATER-~",
    "aLESS-THAN OR GREATER-THANaGREATER-THAN OR LESS-~aNEITHER LESS-THAN NOR GREATER-THAN",
    "bGREATER-THAN NOR LESS-~aPRECEDESaSUCCEEDSaPRECEDES OR EQUAL TOaSUCCEEDS ~",
    "aPRECEDES OR EQUIVALENT ~aSUCCEEDS ~aDOES NOT PRECEDEcSUCCEEDaSUBSET OFaSUPERSET ~",
    "aNOT A SUBSET OFcSUPERSET ~aSUBSET OF OR EQUAL TOaSUPERSET ~aNEITHER A SUBSET OF NOR EQUAL TO",
    "cSUPERSET ~aSUBSET OF WITH NOT EQUAL TOaSUPERSET ~aMULTISETaMULTISET MULTIPLICATIONbUNION",
    "aSQUARE IMAGE OFbORIGINAL ~bIMAGE OF OR EQUAL TObORIGINAL ~bCAPbCUPaCIRCLED PLUSbMINUSbTIMES",
    "bDIVISION SLASHbDOT OPERATORbRING ~bASTERISK ~bEQUALSbDASHaSQUARED PLUSbMINUSbTIMES",
    "bDOT OPERATORaRIGHT TACKaLEFT ~aDOWN ~aUP ~aASSERTIONaMODELSaTRUEaFORCES",
    "aTRIPLE VERTICAL BAR RIGHT TURNSTILEaDOUBLE VERTICAL BAR DOUBLE RIGHT TURNSTILE",
    "aDOES NOT PROVEaNOT TRUEaDOES NOT FORCEaNEGATED DOUBLE VERTICAL BAR DOUBLE RIGHT TURNSTILE",
    "aPRECEDES UNDER RELATIONaSUCCEEDS ~aNORMAL SUBGROUP OFaCONTAINS AS NORMAL SUBGROUP",
    "aNORMAL SUBGROUP OF OR EQUAL TOaCONTAINS AS NORMAL SUBGROUP OR EQUAL TOaORIGINAL OFaIMAGE ~",
    "aMULTIMAPaHERMITIAN CONJUGATE MATRIXaINTERCALATEaXORaNANDaNORaRIGHT ANGLE WITH ARCbTRIANGLE",
    "aN-ARY LOGICAL ANDdORcINTERSECTIONcUNIONaDIAMOND OPERATORaDOT ~aSTAR ~aDIVISION TIMESaBOWTIE",
    "aLEFT NORMAL FACTOR SEMIDIRECT PRODUCTaRIGHT ~aLEFT SEMIDIRECT PRODUCTaRIGHT ~",
    "aREVERSED TILDE EQUALSaCURLY LOGICAL ORcANDaDOUBLE SUBSETbSUPERSETbINTERSECTIONbUNION",
    "aPITCHFORKaEQUAL AND PARALLEL TOaLESS-THAN WITH DOTaGREATER-~aVERY MUCH LESS-THANcGREATER-~",
    "aLESS-THAN EQUAL TO OR GREATER-THANaGREATER-THAN EQUAL TO OR LESS-~aEQUAL TO OR LESS-THAN",
    "dGREATER-~dPRECEDESdSUCCEEDSaDOES NOT PRECEDE OR EQUALcSUCCEED ~",
    "aNOT SQUARE IMAGE OF OR EQUAL TOcORIGINAL ~aSQUARE IMAGE OF OR NOT ~bORIGINAL ~",
    "aLESS-THAN BUT NOT EQUIVALENT TOaGREATER-~aPRECEDES BUT NOT EQUIVALENT TOaSUCCEEDS ~",
    "aNOT NORMAL SUBGROUP OFaDOES NOT CONTAIN AS NORMAL SUBGROUP",
    "aNOT NORMAL SUBGROUP OF OR EQUAL TOaDOES NOT CONTAIN AS NORMAL SUBGROUP OR EQUAL",
    "aVERTICAL ELLIPSISaMIDLINE HORIZONTAL ELLIPSISaUP RIGHT DIAGONAL ELLIPSISaDOWN ~",
    "aELEMENT OF WITH LONG HORIZONTAL STROKEdVERTICAL BAR AT END OF HORIZONTAL STROKE",
    "aSMALL ELEMENT OF WITH VERTICAL BAR AT END OF HORIZONTAL STROKEaELEMENT OF WITH DOT ABOVE",
    "dOVERBARaSMALL ELEMENT OF WITH OVERBARaELEMENT OF WITH UNDERBARdTWO HORIZONTAL STROKES",
    "aCONTAINS WITH LONG HORIZONTAL STROKEcVERTICAL BAR AT END OF HORIZONTAL STROKE",
    "aSMALL CONTAINS WITH VERTICAL BAR AT END OF HORIZONTAL STROKEaCONTAINS WITH OVERBAR",
    "aSMALL CONTAINS WITH OVERBARaZ NOTATION BAG MEMBERSHIPaDIAMETER SIGNaELECTRIC ARROWaHOUSE",
    "aUP ARROWHEADaDOWN ~aPROJECTIVEaPERSPECTIVEaWAVY LINEaLEFT CEILINGaRIGHT ~aLEFT FLOORaRIGHT ~",
    "aBOTTOM RIGHT CROPbLEFT ~aTOP RIGHT ~bLEFT ~aREVERSED NOT SIGNaSQUARE LOZENGEaARCaSEGMENT",
    "aSECTORaTELEPHONE RECORDERaPOSITION INDICATORaVIEWDATA SQUAREaPLACE OF INTEREST SIGN",
    "aTURNED NOT SIGNaWATCHaHOURGLASSaTOP LEFT CORNERbRIGHT ~aBOTTOM LEFT ~bRIGHT ~",
    "aTOP HALF INTEGRALaBOTTOM ~aFROWNaSMILEaUP ARROWHEAD BETWEEN TWO HORIZONTAL BARSaOPTION KEY",
    "aERASE TO THE RIGHTaX IN A RECTANGLE BOXaKEYBOARDaLEFT-POINTING ANGLE BRACKETaRIGHT-~",
    "aERASE TO THE LEFTaBENZENE RINGaCYLINDRICITYaALL AROUND-PROFILEaSYMMETRYaTOTAL RUNOUT",
    "aDIMENSION ORIGINaCONICAL TAPERaSLOPEaCOUNTERBOREaCOUNTERSINKaAPL FUNCTIONAL SYMBOL I-BEAM",
    "dSQUISH QUADdQUAD EQUALeDIVIDEeDIAMONDeJOTeCIRCLEdCIRCLE STILEeJOTdSLASH BARdBACKSLASH ~",
    "dQUAD SLASHeBACKSLASHeLESS-THANeGREATER-~dLEFTWARDS VANEdRIGHTWARDS ~dQUAD LEFTWARDS ARROW",
    "eRIGHTWARDS ~dCIRCLE BACKSLASHdDOWN TACK UNDERBARdDELTA STILEdQUAD DOWN CARETeDELTA",
    "dDOWN TACK JOTdUPWARDS VANEdQUAD UPWARDS ARROWdUP TACK OVERBARdDEL STILEdQUAD UP CARETeDEL",
    "dUP TACK JOTdDOWNWARDS VANEdQUAD DOWNWARDS ARROWdQUOTE UNDERBARdDELTA ~dDIAMOND ~dJOT ~",
    "dCIRCLE ~dUP SHOE JOTdQUOTE QUADdCIRCLE STARdQUAD COLONdUP TACK DIAERESISdDEL DIAERESIS",
    "dSTAR ~dJOT ~dCIRCLE ~dDOWN SHOE STILEdLEFT ~dTILDE DIAERESISdGREATER-THAN DIAERESIS",
    "dCOMMA BARdDEL TILDEdZILDEdSTILE TILDEdSEMICOLON UNDERBARdQUAD NOT EQUALeQUESTION",
    "dDOWN CARET TILDEdUP ~dIOTAdRHOdOMEGAdALPHA UNDERBARdEPSILON ~dIOTA ~dOMEGA ~dALPHA",
    "aNOT CHECK MARKaRIGHT ANGLE WITH DOWNWARDS ZIGZAG ARROWaSHOULDERED OPEN BOXaBELL SYMBOL",
    "aVERTICAL LINE WITH MIDDLE DOTaINSERTION SYMBOLaCONTINUOUS UNDERLINE SYMBOLaDISCONTINUOUS ~",
    "aEMPHASIS SYMBOLaCOMPOSITION ~aWHITE SQUARE WITH CENTRE VERTICAL LINEaENTER SYMBOL",
    "aALTERNATIVE KEY SYMBOLaHELM SYMBOLaCIRCLED HORIZONTAL BAR WITH NOTCHbTRIANGLE DOWN",
    "aBROKEN CIRCLE WITH NORTHWEST ARROWaUNDO SYMBOLaMONOSTABLE ~aHYSTERESIS ~",
    "aOPEN-CIRCUIT-OUTPUT H-TYPE SYMBOLdL-~aPASSIVE-PULL-DOWN-OUTPUT SYMBOLcUP-~",
    "aDIRECT CURRENT SYMBOL FORM TWOaSOFTWARE-FUNCTION SYMBOLaAPL FUNCTIONAL SYMBOL QUAD",
    "aDECIMAL SEPARATOR KEY SYMBOLaPREVIOUS PAGEaNEXT ~aPRINT SCREEN SYMBOLaCLEAR ~",
    "aLEFT PARENTHESIS UPPER HOOKcEXTENSIONcLOWER HOOKaRIGHT PARENTHESIS UPPER ~cEXTENSION",
    "cLOWER HOOKaLEFT SQUARE BRACKET UPPER CORNERdEXTENSIONdLOWER CORNER",
    "aRIGHT SQUARE BRACKET UPPER ~dEXTENSIONdLOWER CORNERaLEFT CURLY BRACKET UPPER HOOK",
    "dMIDDLE PIECEdLOWER HOOKaCURLY BRACKET EXTENSIONaRIGHT CURLY BRACKET UPPER HOOKdMIDDLE PIECE",
    "dLOWER HOOKaINTEGRAL EXTENSIONaHORIZONTAL LINE EXTENSION",
    "aUPPER LEFT OR LOWER RIGHT CURLY BRACKET SECTIONbRIGHT OR LOWER LEFT ~aSUMMATION TOPbBOTTOM",
    "aTOP SQUARE BRACKETaBOTTOM ~cBRACKET OVER TOP SQUARE BRACKETaRADICAL SYMBOL BOTTOM",
    "aLEFT VERTICAL BOX LINEaRIGHT ~aHORIZONTAL SCAN LINE-1d3d7d9",
    "aDENTISTRY SYMBOL LIGHT VERTICAL AND TOP RIGHTfBOTTOM ~eWITH CIRCLE",
    "dDOWN AND HORIZONTAL WITH CIRCLEdUP ~dVERTICAL WITH TRIANGLE",
    "dDOWN AND HORIZONTAL WITH TRIANGLEdUP ~dVERTICAL AND WAVEdDOWN AND HORIZONTAL WITH WAVEdUP ~",
    "dDOWN AND HORIZONTALdUP ~dVERTICAL AND TOP LEFTfBOTTOM ~aSQUARE FOOTaRETURN SYMBOLaEJECT ~",
    "aVERTICAL LINE EXTENSIONaMETRICAL BREVEbLONG OVER SHORTbSHORT OVER LONGbLONG OVER TWO SHORTS",
    "bTWO SHORTS OVER LONGdJOINEDbTRISEMEbTETRASEMEbPENTASEMEaEARTH GROUNDaFUSEaTOP PARENTHESIS",
    "aBOTTOM ~aTOP CURLY BRACKETaBOTTOM ~aTOP TORTOISE SHELL BRACKETaBOTTOM ~aWHITE TRAPEZIUM",
    "aBENZENE RING WITH CIRCLEaSTRAIGHTNESSaFLATNESSaAC CURRENTaELECTRICAL INTERSECTION",
    "aDECIMAL EXPONENT SYMBOLaBLACK RIGHT-POINTING DOUBLE TRIANGLEbLEFT-~bUP-~bDOWN-~",
    "bRIGHT-POINTING DOUBLE TRIANGLE WITH VERTICAL BARbLEFT-~",
    "bRIGHT-POINTING TRIANGLE WITH DOUBLE ~aALARM CLOCKaSTOPWATCHaTIMER CLOCK",
    "aHOURGLASS WITH FLOWING SANDaBLACK MEDIUM LEFT-POINTING TRIANGLEcRIGHT-~cUP-~cDOWN-~",
    "aDOUBLE VERTICAL BARaBLACK SQUARE FOR STOPbCIRCLE FOR RECORDaPOWER SYMBOLbON-OFF SYMBOL",
    "bON SYMBOLbSLEEP ~aOBSERVER EYE ~aSYMBOL FOR NULLcSTART OF HEADINGeTEXTcEND ~eTRANSMISSION",
    "cENQUIRYcACKNOWLEDGEcBELLcBACKSPACEcHORIZONTAL TABULATIONcLINE FEEDcVERTICAL TABULATION",
    "cFORM FEEDcCARRIAGE RETURNcSHIFT OUTdINcDATA LINK ESCAPEcDEVICE CONTROL ONEeTWOeTHREEeFOUR",
    "cNEGATIVE ACKNOWLEDGEcSYNCHRONOUS IDLEcEND OF TRANSMISSION BLOCKcCANCELcEND OF MEDIUM",
    "cSUBSTITUTEcESCAPEcFILE SEPARATORcGROUP ~cRECORD ~cUNIT ~cSPACEcDELETEaBLANK SYMBOLaOPEN BOX",
    "aSYMBOL FOR NEWLINEcDELETE FORM TWOcSUBSTITUTE ~@2440aOCR HOOKbCHAIRbFORKbINVERTED FORK",
    "bBELT BUCKLEbBOW TIEbBRANCH BANK IDENTIFICATIONbAMOUNT OF CHECKbDASHbCUSTOMER ACCOUNT NUMBER",
    "bDOUBLE BACKSLASH@2460aCIRCLED DIGIT ONEcTWOcTHREEcFOURcFIVEcSIXcSEVENcEIGHTcNINEbNUMBER TEN",
    "cELEVENcTWELVEcTHIRTEENcFOURTEENcFIFTEENcSIXTEENcSEVENTEENcEIGHTEENcNINETEENcTWENTY",
    "aPARENTHESIZED DIGIT ONEcTWOcTHREEcFOURcFIVEcSIXcSEVENcEIGHTcNINEbNUMBER TENcELEVENcTWELVE",
    "cTHIRTEENcFOURTEENcFIFTEENcSIXTEENcSEVENTEENcEIGHTEENcNINETEENcTWENTYaDIGIT ONE FULL STOP",
    "bTWO ~bTHREE ~bFOUR ~bFIVE ~bSIX ~bSEVEN ~bEIGHT ~bNINE ~aNUMBER TEN ~bELEVEN ~bTWELVE ~",
    "bTHIRTEEN ~bFOURTEEN ~bFIFTEEN ~bSIXTEEN ~bSEVENTEEN ~bEIGHTEEN ~bNINETEEN ~bTWENTY ~",
    "aPARENTHESIZED LATIN SMALL LETTER AeBeCeDeEeFeGeHeIeJeKeLeMeNeOePeQeReSeTeUeVeWeXeYeZ",
    "aCIRCLED LATIN CAPITAL LETTER AeBeCeDeEeFeGeHeIeJeKeLeMeNeOePeQeReSeTeUeVeWeXeYeZ",
    "cSMALL LETTER AeBeCeDeEeFeGeHeIeJeKeLeMeNeOePeQeReSeTeUeVeWeXeYeZbDIGIT ZERO",
    "aNEGATIVE CIRCLED NUMBER ELEVENdTWELVEdTHIRTEENdFOURTEENdFIFTEENdSIXTEENdSEVENTEENdEIGHTEEN",
    "dNINETEENdTWENTYaDOUBLE CIRCLED DIGIT ONEdTWOdTHREEdFOURdFIVEdSIXdSEVENdEIGHTdNINEcNUMBER TEN",
    "aNEGATIVE CIRCLED DIGIT ZERO"]

end JsonExpr.Text.CharacterName
