/-!
The names of the characters from 0000 to 08FF.
-/

namespace JsonExpr.Text.CharacterName

def from0000 : List String :=
  ["@20aSPACEaEXCLAMATION MARKaQUOTATION ~aNUMBER SIGNaDOLLAR ~aPERCENT ~aAMPERSANDaAPOSTROPHE",
    "aLEFT PARENTHESISaRIGHT ~aASTERISKaPLUS SIGNaCOMMAaHYPHEN-MINUSaFULL STOPaSOLIDUSaDIGIT ZERO",
    "bONEbTWObTHREEbFOURbFIVEbSIXbSEVENbEIGHTbNINEaCOLONaSEMICOLONaLESS-THAN SIGNaEQUALS SIGN",
    "aGREATER-THAN SIGNaQUESTION MARKaCOMMERCIAL ATaLATIN CAPITAL LETTER AdBdCdDdEdFdGdHdIdJdKdLdM",
    "dNdOdPdQdRdSdTdUdVdWdXdYdZaLEFT SQUARE BRACKETaREVERSE SOLIDUSaRIGHT SQUARE BRACKET",
    "aCIRCUMFLEX ACCENTaLOW LINEaGRAVE ACCENTaLATIN SMALL LETTER AdBdCdDdEdFdGdHdIdJdKdLdMdNdOdPdQ",
    "dRdSdTdUdVdWdXdYdZaLEFT CURLY BRACKETaVERTICAL LINEaRIGHT CURLY BRACKETaTILDE",
    "@A0aNO-BREAK SPACEaINVERTED EXCLAMATION MARKaCENT SIGNaPOUND ~aCURRENCY ~aYEN ~aBROKEN BAR",
    "aSECTION SIGNaDIAERESISaCOPYRIGHT SIGNaFEMININE ORDINAL INDICATOR",
    "aLEFT-POINTING DOUBLE ANGLE QUOTATION MARKaNOT SIGNaSOFT HYPHENaREGISTERED SIGNaMACRON",
    "aDEGREE SIGNaPLUS-MINUS SIGNaSUPERSCRIPT TWObTHREEaACUTE ACCENTaMICRO SIGNaPILCROW ~",
    "aMIDDLE DOTaCEDILLAaSUPERSCRIPT ONEaMASCULINE ORDINAL INDICATOR",
    "aRIGHT-POINTING DOUBLE ANGLE QUOTATION MARKaVULGAR FRACTION ONE QUARTERdHALFcTHREE QUARTERS",
    "aINVERTED QUESTION MARKaLATIN CAPITAL LETTER A WITH GRAVEfACUTEfCIRCUMFLEXfTILDEfDIAERESIS",
    "fRING ABOVEdAEdC WITH CEDILLAdE WITH GRAVEfACUTEfCIRCUMFLEXfDIAERESISdI WITH GRAVEfACUTE",
    "fCIRCUMFLEXfDIAERESISdETHdN WITH TILDEdO WITH GRAVEfACUTEfCIRCUMFLEXfTILDEfDIAERESIS",
    "aMULTIPLICATION SIGNaLATIN CAPITAL LETTER O WITH STROKEdU WITH GRAVEfACUTEfCIRCUMFLEX",
    "fDIAERESISdY WITH ACUTEdTHORNbSMALL LETTER SHARP SdA WITH GRAVEfACUTEfCIRCUMFLEXfTILDE",
    "fDIAERESISfRING ABOVEdAEdC WITH CEDILLAdE WITH GRAVEfACUTEfCIRCUMFLEXfDIAERESISdI WITH GRAVE",
    "fACUTEfCIRCUMFLEXfDIAERESISdETHdN WITH TILDEdO WITH GRAVEfACUTEfCIRCUMFLEXfTILDEfDIAERESIS",
    "aDIVISION SIGNaLATIN SMALL LETTER O WITH STROKEdU WITH GRAVEfACUTEfCIRCUMFLEXfDIAERESIS",
    "dY WITH ACUTEdTHORNdY WITH DIAERESISbCAPITAL LETTER A WITH MACRONbSMALL ~",
    "bCAPITAL LETTER A WITH BREVEbSMALL ~bCAPITAL LETTER A WITH OGONEKbSMALL ~",
    "bCAPITAL LETTER C WITH ACUTEbSMALL ~bCAPITAL LETTER C WITH CIRCUMFLEXbSMALL ~",
    "bCAPITAL LETTER C WITH DOT ABOVEbSMALL ~bCAPITAL LETTER C WITH CARONbSMALL ~",
    "bCAPITAL LETTER D ~bSMALL ~bCAPITAL LETTER D WITH STROKEbSMALL ~bCAPITAL LETTER E WITH MACRON",
    "bSMALL ~bCAPITAL LETTER E WITH BREVEbSMALL ~bCAPITAL LETTER E WITH DOT ABOVEbSMALL ~",
    "bCAPITAL LETTER E WITH OGONEKbSMALL ~bCAPITAL LETTER E WITH CARONbSMALL ~",
    "bCAPITAL LETTER G WITH CIRCUMFLEXbSMALL ~bCAPITAL LETTER G WITH BREVEbSMALL ~",
    "bCAPITAL LETTER G WITH DOT ABOVEbSMALL ~bCAPITAL LETTER G WITH CEDILLAbSMALL ~",
    "bCAPITAL LETTER H WITH CIRCUMFLEXbSMALL ~bCAPITAL LETTER H WITH STROKEbSMALL ~",
    "bCAPITAL LETTER I WITH TILDEbSMALL ~bCAPITAL LETTER I WITH MACRONbSMALL ~",
    "bCAPITAL LETTER I WITH BREVEbSMALL ~bCAPITAL LETTER I WITH OGONEKbSMALL ~",
    "bCAPITAL LETTER I WITH DOT ABOVEbSMALL LETTER DOTLESS IbCAPITAL LIGATURE IJbSMALL ~",
    "bCAPITAL LETTER J WITH CIRCUMFLEXbSMALL ~bCAPITAL LETTER K WITH CEDILLAbSMALL ~dKRA",
    "bCAPITAL LETTER L WITH ACUTEbSMALL ~bCAPITAL LETTER L WITH CEDILLAbSMALL ~",
    "bCAPITAL LETTER L WITH CARONbSMALL ~bCAPITAL LETTER L WITH MIDDLE DOTbSMALL ~",
    "bCAPITAL LETTER L WITH STROKEbSMALL ~bCAPITAL LETTER N WITH ACUTEbSMALL ~",
    "bCAPITAL LETTER N WITH CEDILLAbSMALL ~bCAPITAL LETTER N WITH CARONbSMALL ~",
    "ePRECEDED BY APOSTROPHEbCAPITAL LETTER ENGbSMALL ~bCAPITAL LETTER O WITH MACRONbSMALL ~",
    "bCAPITAL LETTER O WITH BREVEbSMALL ~bCAPITAL LETTER O WITH DOUBLE ACUTEbSMALL ~",
    "bCAPITAL LIGATURE OEbSMALL ~bCAPITAL LETTER R WITH ACUTEbSMALL ~",
    "bCAPITAL LETTER R WITH CEDILLAbSMALL ~bCAPITAL LETTER R WITH CARONbSMALL ~",
    "bCAPITAL LETTER S WITH ACUTEbSMALL ~bCAPITAL LETTER S WITH CIRCUMFLEXbSMALL ~",
    "bCAPITAL LETTER S WITH CEDILLAbSMALL ~bCAPITAL LETTER S WITH CARONbSMALL ~",
    "bCAPITAL LETTER T WITH CEDILLAbSMALL ~bCAPITAL LETTER T WITH CARONbSMALL ~",
    "bCAPITAL LETTER T WITH STROKEbSMALL ~bCAPITAL LETTER U WITH TILDEbSMALL ~",
    "bCAPITAL LETTER U WITH MACRONbSMALL ~bCAPITAL LETTER U WITH BREVEbSMALL ~",
    "bCAPITAL LETTER U WITH RING ABOVEbSMALL ~bCAPITAL LETTER U WITH DOUBLE ACUTEbSMALL ~",
    "bCAPITAL LETTER U WITH OGONEKbSMALL ~bCAPITAL LETTER W WITH CIRCUMFLEXbSMALL ~",
    "bCAPITAL LETTER Y ~bSMALL ~bCAPITAL LETTER Y WITH DIAERESISdZ WITH ACUTEbSMALL ~",
    "bCAPITAL LETTER Z WITH DOT ABOVEbSMALL ~bCAPITAL LETTER Z WITH CARONbSMALL ~dLONG S",
    "dB WITH STROKEbCAPITAL LETTER B WITH HOOKfTOPBARbSMALL ~bCAPITAL LETTER TONE SIXbSMALL ~",
    "bCAPITAL LETTER OPEN OdC WITH HOOKbSMALL ~bCAPITAL LETTER AFRICAN DdD WITH HOOKfTOPBAR",
    "bSMALL ~dTURNED DELTAbCAPITAL LETTER REVERSED EdSCHWAdOPEN EdF WITH HOOKbSMALL ~",
    "bCAPITAL LETTER G ~dGAMMAbSMALL LETTER HVbCAPITAL LETTER IOTAdI WITH STROKEdK WITH HOOK",
    "bSMALL ~dL WITH BARdLAMBDA WITH STROKEbCAPITAL LETTER TURNED MdN WITH LEFT HOOK",
    "bSMALL LETTER N WITH LONG RIGHT LEGbCAPITAL LETTER O WITH MIDDLE TILDEfHORNbSMALL ~",
    "bCAPITAL LETTER OIbSMALL ~bCAPITAL LETTER P WITH HOOKbSMALL ~bLETTER YR",
    "bCAPITAL LETTER TONE TWObSMALL ~bCAPITAL LETTER ESHbLETTER REVERSED ESH LOOP",
    "bSMALL LETTER T WITH PALATAL HOOKbCAPITAL LETTER T WITH HOOKbSMALL ~",
    "bCAPITAL LETTER T WITH RETROFLEX HOOKdU WITH HORNbSMALL ~bCAPITAL LETTER UPSILONdV WITH HOOK",
    "dY ~bSMALL ~bCAPITAL LETTER Z WITH STROKEbSMALL ~bCAPITAL LETTER EZHdEZH REVERSEDbSMALL ~",
    "eWITH TAILbLETTER TWO WITH STROKEbCAPITAL LETTER TONE FIVEbSMALL ~",
    "bLETTER INVERTED GLOTTAL STOP WITH STROKEcWYNNcDENTAL CLICKcLATERAL ~cALVEOLAR ~cRETROFLEX ~",
    "bCAPITAL LETTER DZ WITH CARONdD WITH SMALL LETTER Z WITH CARONbSMALL LETTER DZ WITH CARON",
    "bCAPITAL LETTER LJdL WITH SMALL LETTER JbSMALL LETTER LJbCAPITAL LETTER NJ",
    "dN WITH SMALL LETTER JbSMALL LETTER NJbCAPITAL LETTER A WITH CARONbSMALL ~bCAPITAL LETTER I ~",
    "bSMALL ~bCAPITAL LETTER O ~bSMALL ~bCAPITAL LETTER U ~bSMALL ~",
    "bCAPITAL LETTER U WITH DIAERESIS AND MACRONbSMALL ~bCAPITAL LETTER U WITH DIAERESIS AND ACUTE",
    "bSMALL ~bCAPITAL LETTER U WITH DIAERESIS AND CARONbSMALL ~",
    "bCAPITAL LETTER U WITH DIAERESIS AND GRAVEbSMALL ~dTURNED E",
    "bCAPITAL LETTER A WITH DIAERESIS AND MACRONbSMALL ~",
    "bCAPITAL LETTER A WITH DOT ABOVE AND MACRONbSMALL ~bCAPITAL LETTER AE WITH MACRONbSMALL ~",
    "bCAPITAL LETTER G WITH STROKEbSMALL ~bCAPITAL LETTER G WITH CARONbSMALL ~bCAPITAL LETTER K ~",
    "bSMALL ~bCAPITAL LETTER O WITH OGONEKbSMALL ~bCAPITAL LETTER O WITH OGONEK AND MACRONbSMALL ~",
    "bCAPITAL LETTER EZH WITH CARONbSMALL ~dJ ~bCAPITAL LETTER DZdD WITH SMALL LETTER Z",
    "bSMALL LETTER DZbCAPITAL LETTER G WITH ACUTEbSMALL ~bCAPITAL LETTER HWAIRdWYNNdN WITH GRAVE",
    "bSMALL ~bCAPITAL LETTER A WITH RING ABOVE AND ACUTEbSMALL ~bCAPITAL LETTER AE WITH ACUTE",
    "bSMALL ~bCAPITAL LETTER O WITH STROKE AND ACUTEbSMALL ~bCAPITAL LETTER A WITH DOUBLE GRAVE",
    "bSMALL ~bCAPITAL LETTER A WITH INVERTED BREVEbSMALL ~bCAPITAL LETTER E WITH DOUBLE GRAVE",
    "bSMALL ~bCAPITAL LETTER E WITH INVERTED BREVEbSMALL ~bCAPITAL LETTER I WITH DOUBLE GRAVE",
    "bSMALL ~bCAPITAL LETTER I WITH INVERTED BREVEbSMALL ~bCAPITAL LETTER O WITH DOUBLE GRAVE",
    "bSMALL ~bCAPITAL LETTER O WITH INVERTED BREVEbSMALL ~bCAPITAL LETTER R WITH DOUBLE GRAVE",
    "bSMALL ~bCAPITAL LETTER R WITH INVERTED BREVEbSMALL ~bCAPITAL LETTER U WITH DOUBLE GRAVE",
    "bSMALL ~bCAPITAL LETTER U WITH INVERTED BREVEbSMALL ~bCAPITAL LETTER S WITH COMMA BELOW",
    "bSMALL ~bCAPITAL LETTER T ~bSMALL ~bCAPITAL LETTER YOGHbSMALL ~bCAPITAL LETTER H WITH CARON",
    "bSMALL ~bCAPITAL LETTER N WITH LONG RIGHT LEGbSMALL LETTER D WITH CURLbCAPITAL LETTER OU",
    "bSMALL ~bCAPITAL LETTER Z WITH HOOKbSMALL ~bCAPITAL LETTER A WITH DOT ABOVEbSMALL ~",
    "bCAPITAL LETTER E WITH CEDILLAbSMALL ~bCAPITAL LETTER O WITH DIAERESIS AND MACRONbSMALL ~",
    "bCAPITAL LETTER O WITH TILDE ~bSMALL ~bCAPITAL LETTER O WITH DOT ABOVEbSMALL ~",
    "bCAPITAL LETTER O WITH DOT ABOVE AND MACRONbSMALL ~bCAPITAL LETTER Y WITH MACRONbSMALL ~",
    "dL WITH CURLdN ~dT ~dDOTLESS JdDB DIGRAPHdQP ~bCAPITAL LETTER A WITH STROKEdC ~bSMALL ~",
    "bCAPITAL LETTER L WITH BARdT WITH DIAGONAL STROKEbSMALL LETTER S WITH SWASH TAILdZ ~",
    "bCAPITAL LETTER GLOTTAL STOPbSMALL ~bCAPITAL LETTER B WITH STROKEdU BARdTURNED V",
    "dE WITH STROKEbSMALL ~bCAPITAL LETTER J ~bSMALL ~bCAPITAL LETTER SMALL Q WITH HOOK TAIL",
    "bSMALL LETTER Q WITH HOOK TAILbCAPITAL LETTER R WITH STROKEbSMALL ~bCAPITAL LETTER Y ~",
    "bSMALL ~dTURNED AdALPHAdTURNED ALPHAdB WITH HOOKdOPEN OdC WITH CURLdD WITH TAILfHOOK",
    "dREVERSED EdSCHWAdSCHWA WITH HOOKdOPEN EdREVERSED OPEN EfE WITH HOOKdCLOSED REVERSED OPEN E",
    "dDOTLESS J WITH STROKEdG WITH HOOKdSCRIPT GbLETTER SMALL CAPITAL GbSMALL LETTER GAMMA",
    "dRAMS HORNdTURNED HdH WITH HOOKdHENG ~dI WITH STROKEdIOTAbLETTER SMALL CAPITAL I",
    "bSMALL LETTER L WITH MIDDLE TILDEfBELTfRETROFLEX HOOKdLEZHdTURNED MeM WITH LONG LEG",
    "dM WITH HOOKdN WITH LEFT HOOKfRETROFLEX ~bLETTER SMALL CAPITAL NbSMALL LETTER BARRED O",
    "bLETTER SMALL CAPITAL OEbSMALL LETTER CLOSED OMEGAdPHIdTURNED ReR WITH LONG LEGgHOOK",
    "dR WITH LONG LEGfTAILfFISHHOOKdREVERSED R WITH FISHHOOKbLETTER SMALL CAPITAL ReINVERTED R",
    "bSMALL LETTER S WITH HOOKdESHdDOTLESS J WITH STROKE AND HOOKdSQUAT REVERSED ESHdESH WITH CURL",
    "dTURNED TdT WITH RETROFLEX HOOKdU BARdUPSILONdV WITH HOOKdTURNED VeWeYbLETTER SMALL CAPITAL Y",
    "bSMALL LETTER Z WITH RETROFLEX HOOKfCURLdEZHdEZH WITH CURLbLETTER GLOTTAL STOP",
    "cPHARYNGEAL VOICED FRICATIVEcINVERTED GLOTTAL STOPcSTRETCHED CcBILABIAL CLICKcSMALL CAPITAL B",
    "bSMALL LETTER CLOSED OPEN EbLETTER SMALL CAPITAL G WITH HOOKeH",
    "bSMALL LETTER J WITH CROSSED-TAILdTURNED KbLETTER SMALL CAPITAL LbSMALL LETTER Q WITH HOOK",
    "bLETTER GLOTTAL STOP WITH STROKEcREVERSED GLOTTAL STOP WITH STROKEbSMALL LETTER DZ DIGRAPH",
    "dDEZH ~dDZ DIGRAPH WITH CURLdTS DIGRAPHdTESH ~dTC DIGRAPH WITH CURLdFENG DIGRAPHdLS ~dLZ ~",
    "bLETTER BILABIAL PERCUSSIVEcBIDENTAL ~bSMALL LETTER TURNED H WITH FISHHOOKgFISHHOOK AND TAIL",
    "aMODIFIER LETTER SMALL HdH WITH HOOKdJdRdTURNED ReR WITH HOOKdCAPITAL INVERTED RdWdYcPRIME",
    "cDOUBLE PRIMEcTURNED COMMAcAPOSTROPHEcREVERSED COMMAcRIGHT HALF RINGcLEFT ~cGLOTTAL STOP",
    "cREVERSED GLOTTAL STOPcLEFT ARROWHEADcRIGHT ~cUP ~cDOWN ~cCIRCUMFLEX ACCENTaCARON",
    "aMODIFIER LETTER VERTICAL LINEcMACRONcACUTE ACCENTcGRAVE ~cLOW VERTICAL LINEdMACRON",
    "dGRAVE ACCENTdACUTE ~cTRIANGULAR COLONcHALF TRIANGULAR COLONcCENTRED RIGHT HALF RINGdLEFT ~",
    "cUP TACKcDOWN ~cPLUS SIGNcMINUS ~aBREVEaDOT ABOVEaRING ~aOGONEKaSMALL TILDE",
    "aDOUBLE ACUTE ACCENTaMODIFIER LETTER RHOTIC HOOKcCROSS ACCENTcSMALL GAMMAdLdSdX",
    "dREVERSED GLOTTAL STOPcEXTRA-HIGH TONE BARcHIGH TONE BARcMID ~cLOW ~cEXTRA-LOW TONE BAR",
    "cYIN DEPARTING TONE MARKcYANG ~cVOICINGcUNASPIRATEDcDOUBLE APOSTROPHEcLOW DOWN ARROWHEADdUP ~",
    "dLEFT ~dRIGHT ~dRINGcMIDDLE GRAVE ACCENTdDOUBLE GRAVE ACCENTeACUTE ~cLOW TILDEcRAISED COLON",
    "cBEGIN HIGH TONEcEND ~cBEGIN LOW ~cEND ~cSHELFcOPEN SHELFcLOW LEFT ARROW",
    "aCOMBINING GRAVE ACCENTbACUTE ~bCIRCUMFLEX ~bTILDEbMACRONbOVERLINEbBREVEbDOT ABOVEbDIAERESIS",
    "bHOOK ABOVEbRING ~bDOUBLE ACUTE ACCENTbCARONbVERTICAL LINE ABOVEbDOUBLE VERTICAL LINE ABOVE",
    "cGRAVE ACCENTbCANDRABINDUbINVERTED BREVEbTURNED COMMA ABOVEbCOMMA ABOVEbREVERSED COMMA ABOVE",
    "bCOMMA ABOVE RIGHTbGRAVE ACCENT BELOWbACUTE ~bLEFT TACK ~bRIGHT ~bLEFT ANGLE ABOVEbHORN",
    "bLEFT HALF RING BELOWbUP TACK BELOWbDOWN ~bPLUS SIGN ~bMINUS ~bPALATALIZED HOOK ~bRETROFLEX ~",
    "bDOT BELOWbDIAERESIS ~bRING ~bCOMMA ~bCEDILLAbOGONEKbVERTICAL LINE BELOWbBRIDGE BELOW",
    "bINVERTED DOUBLE ARCH BELOWbCARON BELOWbCIRCUMFLEX ACCENT BELOWbBREVE BELOW",
    "bINVERTED BREVE BELOWbTILDE BELOWbMACRON ~bLOW LINEbDOUBLE LOW LINEbTILDE OVERLAY",
    "bSHORT STROKE OVERLAYbLONG ~bSHORT SOLIDUS ~bLONG ~bRIGHT HALF RING BELOW",
    "bINVERTED BRIDGE BELOWbSQUARE BELOWbSEAGULL ~bX ABOVEbVERTICAL TILDEbDOUBLE OVERLINE",
    "bGRAVE TONE MARKbACUTE ~bGREEK PERISPOMENIcKORONIScDIALYTIKA TONOScYPOGEGRAMMENIbBRIDGE ABOVE",
    "bEQUALS SIGN BELOWbDOUBLE VERTICAL LINE BELOWbLEFT ANGLE BELOWbNOT TILDE ABOVE",
    "bHOMOTHETIC ABOVEbALMOST EQUAL TO ABOVEbLEFT RIGHT ARROW BELOWbUPWARDS ARROW BELOW",
    "bGRAPHEME JOINERbRIGHT ARROWHEAD ABOVEbLEFT HALF RING ABOVEbFERMATAbX BELOW",
    "bLEFT ARROWHEAD BELOWbRIGHT ~dAND UP ARROWHEAD BELOWcHALF RING ABOVEbDOT ABOVE RIGHT",
    "bASTERISK BELOWbDOUBLE RING BELOWbZIGZAG ABOVEbDOUBLE BREVE BELOWcBREVEcMACRONcMACRON BELOW",
    "cTILDEcINVERTED BREVEcRIGHTWARDS ARROW BELOWbLATIN SMALL LETTER AeEeIeOeUeCeDeHeMeReTeVeX",
    "aGREEK CAPITAL LETTER HETAbSMALL ~bCAPITAL LETTER ARCHAIC SAMPIbSMALL ~bNUMERAL SIGN",
    "bLOWER NUMERAL SIGNbCAPITAL LETTER PAMPHYLIAN DIGAMMAbSMALL ~@37AbYPOGEGRAMMENI",
    "bSMALL REVERSED LUNATE SIGMA SYMBOLcDOTTED ~cREVERSED DOTTED LUNATE SIGMA SYMBOL",
    "bQUESTION MARKbCAPITAL LETTER YOT@384bTONOSbDIALYTIKA TONOSbCAPITAL LETTER ALPHA WITH TONOS",
    "bANO TELEIAbCAPITAL LETTER EPSILON WITH TONOSdETA ~dIOTA ~@38CdOMICRON ~@38EdUPSILON ~",
    "dOMEGA ~bSMALL LETTER IOTA WITH DIALYTIKA AND TONOSbCAPITAL LETTER ALPHAdBETAdGAMMAdDELTA",
    "dEPSILONdZETAdETAdTHETAdIOTAdKAPPAdLAMDAdMUdNUdXIdOMICRONdPIdRHO@3A3dSIGMAdTAUdUPSILONdPHI",
    "dCHIdPSIdOMEGAdIOTA WITH DIALYTIKAdUPSILON ~bSMALL LETTER ALPHA WITH TONOSdEPSILON ~dETA ~",
    "dIOTA ~dUPSILON WITH DIALYTIKA AND TONOSdALPHAdBETAdGAMMAdDELTAdEPSILONdZETAdETAdTHETAdIOTA",
    "dKAPPAdLAMDAdMUdNUdXIdOMICRONdPIdRHOdFINAL SIGMAdSIGMAdTAUdUPSILONdPHIdCHIdPSIdOMEGA",
    "dIOTA WITH DIALYTIKAdUPSILON ~dOMICRON WITH TONOSdUPSILON ~dOMEGA ~bCAPITAL KAI SYMBOL",
    "bBETA SYMBOLbTHETA ~bUPSILON WITH HOOK SYMBOLdACUTE AND HOOK SYMBOLdDIAERESIS ~bPHI SYMBOL",
    "bPI ~bKAI ~bLETTER ARCHAIC KOPPAbSMALL LETTER ARCHAIC KOPPAbLETTER STIGMAbSMALL LETTER STIGMA",
    "bLETTER DIGAMMAbSMALL LETTER DIGAMMAbLETTER KOPPAbSMALL LETTER KOPPAbLETTER SAMPI",
    "bSMALL LETTER SAMPIaCOPTIC CAPITAL LETTER SHEIbSMALL ~bCAPITAL LETTER FEIbSMALL ~",
    "bCAPITAL LETTER KHEIbSMALL ~bCAPITAL LETTER HORIbSMALL ~bCAPITAL LETTER GANGIAbSMALL ~",
    "bCAPITAL LETTER SHIMAbSMALL ~bCAPITAL LETTER DEIbSMALL ~aGREEK KAPPA SYMBOLbRHO ~",
    "bLUNATE SIGMA SYMBOLbLETTER YOTbCAPITAL THETA SYMBOLbLUNATE EPSILON ~",
    "bREVERSED LUNATE EPSILON SYMBOLbCAPITAL LETTER SHObSMALL ~bCAPITAL LUNATE SIGMA SYMBOL",
    "cLETTER SANbSMALL ~bRHO WITH STROKE SYMBOLbCAPITAL REVERSED LUNATE SIGMA SYMBOLcDOTTED ~",
    "cREVERSED DOTTED LUNATE SIGMA SYMBOLaCYRILLIC CAPITAL LETTER IE WITH GRAVEdIOdDJEdGJE",
    "dUKRAINIAN IEdDZEdBYELORUSSIAN-UKRAINIAN IdYIdJEdLJEdNJEdTSHEdKJEdI WITH GRAVEdSHORT UdDZHEdA",
    "dBEdVEdGHEdDEdIEdZHEdZEdIdSHORT IdKAdELdEMdENdOdPEdERdESdTEdUdEFdHAdTSEdCHEdSHAdSHCHA",
    "dHARD SIGNdYERUdSOFT SIGNdEdYUdYAbSMALL LETTER AdBEdVEdGHEdDEdIEdZHEdZEdIdSHORT IdKAdELdEMdEN",
    "dOdPEdERdESdTEdUdEFdHAdTSEdCHEdSHAdSHCHAdHARD SIGNdYERUdSOFT SIGNdEdYUdYAdIE WITH GRAVEdIO",
    "dDJEdGJEdUKRAINIAN IEdDZEdBYELORUSSIAN-UKRAINIAN IdYIdJEdLJEdNJEdTSHEdKJEdI WITH GRAVE",
    "dSHORT UdDZHEbCAPITAL LETTER OMEGAbSMALL ~bCAPITAL LETTER YATbSMALL ~",
    "bCAPITAL LETTER IOTIFIED EbSMALL ~bCAPITAL LETTER LITTLE YUSbSMALL ~",
    "bCAPITAL LETTER IOTIFIED LITTLE YUSbSMALL ~bCAPITAL LETTER BIG YUSbSMALL ~",
    "bCAPITAL LETTER IOTIFIED BIG YUSbSMALL ~bCAPITAL LETTER KSIbSMALL ~bCAPITAL LETTER PSI",
    "bSMALL ~bCAPITAL LETTER FITAbSMALL ~bCAPITAL LETTER IZHITSAbSMALL ~",
    "bCAPITAL LETTER IZHITSA WITH DOUBLE GRAVE ACCENTbSMALL ~bCAPITAL LETTER UKbSMALL ~",
    "bCAPITAL LETTER ROUND OMEGAbSMALL ~bCAPITAL LETTER OMEGA WITH TITLObSMALL ~bCAPITAL LETTER OT",
    "bSMALL ~bCAPITAL LETTER KOPPAbSMALL ~bTHOUSANDS SIGNaCOMBINING CYRILLIC TITLOcPALATALIZATION",
    "cDASIA PNEUMATAcPSILI ~cPOKRYTIEcHUNDRED THOUSANDS SIGNcMILLIONS SIGN",
    "aCYRILLIC CAPITAL LETTER SHORT I WITH TAILbSMALL ~bCAPITAL LETTER SEMISOFT SIGNbSMALL ~",
    "bCAPITAL LETTER ER WITH TICKbSMALL ~bCAPITAL LETTER GHE WITH UPTURNbSMALL ~",
    "bCAPITAL LETTER GHE WITH STROKEbSMALL ~bCAPITAL LETTER GHE WITH MIDDLE HOOKbSMALL ~",
    "bCAPITAL LETTER ZHE WITH DESCENDERbSMALL ~bCAPITAL LETTER ZE ~bSMALL ~bCAPITAL LETTER KA ~",
    "bSMALL ~bCAPITAL LETTER KA WITH VERTICAL STROKEbSMALL ~bCAPITAL LETTER KA WITH STROKEbSMALL ~",
    "bCAPITAL LETTER BASHKIR KAbSMALL ~bCAPITAL LETTER EN WITH DESCENDERbSMALL ~",
    "bCAPITAL LIGATURE EN GHEbSMALL ~bCAPITAL LETTER PE WITH MIDDLE HOOKbSMALL ~",
    "bCAPITAL LETTER ABKHASIAN HAbSMALL ~bCAPITAL LETTER ES WITH DESCENDERbSMALL ~",
    "bCAPITAL LETTER TE ~bSMALL ~bCAPITAL LETTER STRAIGHT UbSMALL ~",
    "bCAPITAL LETTER STRAIGHT U WITH STROKEbSMALL ~bCAPITAL LETTER HA WITH DESCENDERbSMALL ~",
    "bCAPITAL LIGATURE TE TSEbSMALL ~bCAPITAL LETTER CHE WITH DESCENDERbSMALL ~",
    "bCAPITAL LETTER CHE WITH VERTICAL STROKEbSMALL ~bCAPITAL LETTER SHHAbSMALL ~",
    "bCAPITAL LETTER ABKHASIAN CHEbSMALL ~bCAPITAL LETTER ABKHASIAN CHE WITH DESCENDERbSMALL ~",
    "bLETTER PALOCHKAbCAPITAL LETTER ZHE WITH BREVEbSMALL ~bCAPITAL LETTER KA WITH HOOKbSMALL ~",
    "bCAPITAL LETTER EL WITH TAILbSMALL ~bCAPITAL LETTER EN WITH HOOKbSMALL ~",
    "bCAPITAL LETTER EN WITH TAILbSMALL ~bCAPITAL LETTER KHAKASSIAN CHEbSMALL ~",
    "bCAPITAL LETTER EM WITH TAILbSMALL ~dPALOCHKAbCAPITAL LETTER A WITH BREVEbSMALL ~",
    "bCAPITAL LETTER A WITH DIAERESISbSMALL ~bCAPITAL LIGATURE A IEbSMALL ~",
    "bCAPITAL LETTER IE WITH BREVEbSMALL ~bCAPITAL LETTER SCHWAbSMALL ~",
    "bCAPITAL LETTER SCHWA WITH DIAERESISbSMALL ~bCAPITAL LETTER ZHE ~bSMALL ~bCAPITAL LETTER ZE ~",
    "bSMALL ~bCAPITAL LETTER ABKHASIAN DZEbSMALL ~bCAPITAL LETTER I WITH MACRONbSMALL ~",
    "bCAPITAL LETTER I WITH DIAERESISbSMALL ~bCAPITAL LETTER O ~bSMALL ~bCAPITAL LETTER BARRED O",
    "bSMALL ~bCAPITAL LETTER BARRED O WITH DIAERESISbSMALL ~bCAPITAL LETTER E WITH DIAERESIS",
    "bSMALL ~bCAPITAL LETTER U WITH MACRONbSMALL ~bCAPITAL LETTER U WITH DIAERESISbSMALL ~",
    "bCAPITAL LETTER U WITH DOUBLE ACUTEbSMALL ~bCAPITAL LETTER CHE WITH DIAERESISbSMALL ~",
    "bCAPITAL LETTER GHE WITH DESCENDERbSMALL ~bCAPITAL LETTER YERU WITH DIAERESISbSMALL ~",
    "bCAPITAL LETTER GHE WITH STROKE AND HOOKbSMALL ~bCAPITAL LETTER HA WITH HOOKbSMALL ~",
    "bCAPITAL LETTER HA WITH STROKEbSMALL ~bCAPITAL LETTER KOMI DEbSMALL ~bCAPITAL LETTER KOMI DJE",
    "bSMALL ~bCAPITAL LETTER KOMI ZJEbSMALL ~bCAPITAL LETTER KOMI DZJEbSMALL ~",
    "bCAPITAL LETTER KOMI LJEbSMALL ~bCAPITAL LETTER KOMI NJEbSMALL ~bCAPITAL LETTER KOMI SJE",
    "bSMALL ~bCAPITAL LETTER KOMI TJEbSMALL ~bCAPITAL LETTER REVERSED ZEbSMALL ~",
    "bCAPITAL LETTER EL WITH HOOKbSMALL ~bCAPITAL LETTER LHAbSMALL ~bCAPITAL LETTER RHAbSMALL ~",
    "bCAPITAL LETTER YAEbSMALL ~bCAPITAL LETTER QAbSMALL ~bCAPITAL LETTER WEbSMALL ~",
    "bCAPITAL LETTER ALEUT KAbSMALL ~bCAPITAL LETTER EL WITH MIDDLE HOOKbSMALL ~",
    "bCAPITAL LETTER EN ~bSMALL ~bCAPITAL LETTER PE WITH DESCENDERbSMALL ~bCAPITAL LETTER SHHA ~",
    "bSMALL ~bCAPITAL LETTER EN WITH LEFT HOOKbSMALL ~bCAPITAL LETTER DZZHEbSMALL ~",
    "bCAPITAL LETTER DCHEbSMALL ~bCAPITAL LETTER EL WITH DESCENDERbSMALL ~",
    "@531aARMENIAN CAPITAL LETTER AYBdBENdGIMdDAdECHdZAdEHdETdTOdZHEdINIdLIWNdXEHdCAdKENdHOdJA",
    "dGHADdCHEHdMENdYIdNOWdSHAdVOdCHAdPEHdJHEHdRAdSEHdVEWdTIWNdREHdCOdYIWNdPIWRdKEHdOHdFEH",
    "@559bMODIFIER LETTER LEFT HALF RINGbAPOSTROPHEbEMPHASIS MARKbEXCLAMATION ~bCOMMA",
    "bQUESTION MARKbABBREVIATION ~bSMALL LETTER TURNED AYBdAYBdBENdGIMdDAdECHdZAdEHdETdTOdZHEdINI",
    "dLIWNdXEHdCAdKENdHOdJAdGHADdCHEHdMENdYIdNOWdSHAdVOdCHAdPEHdJHEHdRAdSEHdVEWdTIWNdREHdCOdYIWN",
    "dPIWRdKEHdOHdFEHcLIGATURE ECH YIWNcLETTER YI WITH STROKEbFULL STOPbHYPHEN",
    "@58DaRIGHT-FACING ARMENIAN ETERNITY SIGNaLEFT-~aARMENIAN DRAM SIGN@591aHEBREW ACCENT ETNAHTA",
    "cSEGOLcSHALSHELETcZAQEF QATANdGADOLcTIPEHAcREVIAcZARQAcPASHTAcYETIVcTEVIRcGERESH",
    "cGERESH MUQDAMcGERSHAYIMcQARNEY PARAcTELISHA GEDOLAcPAZERcATNAH HAFUKHcMUNAHcMAHAPAKHcMERKHA",
    "cMERKHA KEFULAcDARGAcQADMAcTELISHA QETANAcYERAH BEN YOMOcOLEcILUYcDEHIcZINOR",
    "bMARK MASORA CIRCLEbPOINT SHEVAcHATAF SEGOLdPATAHdQAMATScHIRIQcTSEREcSEGOLcPATAHcQAMATScHOLAM",
    "cHOLAM HASER FOR VAVcQUBUTScDAGESH OR MAPIQcMETEGbPUNCTUATION MAQAFbPOINT RAFE",
    "bPUNCTUATION PASEQbPOINT SHIN DOTcSIN ~bPUNCTUATION SOF PASUQbMARK UPPER DOTcLOWER ~",
    "bPUNCTUATION NUN HAFUKHAbPOINT QAMATS QATAN@5D0bLETTER ALEFcBETcGIMELcDALETcHEcVAVcZAYINcHET",
    "cTETcYODcFINAL KAFcKAFcLAMEDcFINAL MEMcMEMcFINAL NUNcNUNcSAMEKHcAYINcFINAL PEcPEcFINAL TSADI",
    "cTSADIcQOFcRESHcSHINcTAV@5EFbYOD TRIANGLEbLIGATURE YIDDISH DOUBLE VAVdVAV YODdDOUBLE ~",
    "bPUNCTUATION GERESHcGERSHAYIM@600aARABIC NUMBER SIGNbSIGN SANAHbFOOTNOTE MARKERbSIGN SAFHA",
    "cSAMVATbNUMBER MARK ABOVEaARABIC-INDIC CUBE ROOTcFOURTH ~aARABIC RAY",
    "aARABIC-INDIC PER MILLE SIGNdTEN THOUSAND SIGNaAFGHANI SIGNaARABIC COMMAbDATE SEPARATOR",
    "bPOETIC VERSE SIGNbSIGN MISRAcSALLALLAHOU ALAYHE WASSALLAMcALAYHE ASSALLAMcRAHMATULLAH ALAYHE",
    "cRADI ALLAHOU ANHUcTAKHALLUSbSMALL HIGH TAHdLIGATURE ALEF WITH LAM WITH YEHdZAINcFATHAcDAMMA",
    "cKASRAbSEMICOLONbLETTER MARKbEND OF TEXT MARKbTRIPLE DOT PUNCTUATION ~bQUESTION MARK",
    "bLETTER KASHMIRI YEHcHAMZAcALEF WITH MADDA ABOVEeHAMZA ~cWAW ~cALEF WITH HAMZA BELOW",
    "cYEH WITH HAMZA ABOVEcALEFcBEHcTEH MARBUTAcTEHcTHEHcJEEMcHAHcKHAHcDALcTHALcREHcZAINcSEEN",
    "cSHEENcSADcDADcTAHcZAHcAINcGHAINcKEHEH WITH TWO DOTS ABOVEeTHREE DOTS BELOW",
    "cFARSI YEH WITH INVERTED VfTWO DOTS ABOVEfTHREE ~bTATWEELbLETTER FEHcQAFcKAFcLAMcMEEMcNOON",
    "cHEHcWAWcALEF MAKSURAcYEHbFATHATANbDAMMATANbKASRATANbFATHAbDAMMAbKASRAbSHADDAbSUKUN",
    "bMADDAH ABOVEbHAMZA ~cBELOWbSUBSCRIPT ALEFbINVERTED DAMMAbMARK NOON GHUNNAbZWARAKAY",
    "bVOWEL SIGN SMALL V ABOVEdINVERTED SMALL V ABOVEdDOT BELOWbREVERSED DAMMAbFATHA WITH TWO DOTS",
    "bWAVY HAMZA BELOWaARABIC-INDIC DIGIT ZEROdONEdTWOdTHREEdFOURdFIVEdSIXdSEVENdEIGHTdNINE",
    "aARABIC PERCENT SIGNbDECIMAL SEPARATORbTHOUSANDS ~bFIVE POINTED STARbLETTER DOTLESS BEHdQAF",
    "cSUPERSCRIPT ALEFcALEF WASLAdWITH WAVY HAMZA ABOVEgBELOWcHIGH HAMZAdHAMZA ALEFeWAW",
    "cU WITH HAMZA ABOVEcHIGH HAMZA YEHcTTEHcTTEHEHcBEEHcTEH WITH RINGeTHREE DOTS ABOVE DOWNWARDS",
    "cPEHcTEHEHcBEHEHcHAH WITH HAMZA ABOVEeTWO DOTS VERTICAL ABOVEcNYEHcDYEH",
    "cHAH WITH THREE DOTS ABOVEcTCHEHcTCHEHEHcDDALcDAL WITH RINGeDOT BELOWfBELOW AND SMALL TAH",
    "cDAHALcDDAHALcDULcDAL WITH THREE DOTS ABOVE DOWNWARDSeFOUR DOTS ABOVEcRREHcREH WITH SMALL V",
    "eRINGeDOT BELOWeSMALL V BELOWeDOT BELOW AND DOT ABOVEeTWO DOTS ABOVEcJEH",
    "cREH WITH FOUR DOTS ABOVEcSEEN WITH DOT BELOW AND DOT ABOVEeTHREE DOTS BELOW",
    "gBELOW AND THREE DOTS ABOVEcSAD WITH TWO DOTS BELOWeTHREE DOTS ABOVEcTAH ~cAIN ~cDOTLESS FEH",
    "cFEH WITH DOT MOVED BELOWfBELOWcVEHcFEH WITH THREE DOTS BELOWcPEHEHcQAF WITH DOT ABOVE",
    "eTHREE DOTS ABOVEcKEHEHcSWASH KAFcKAF WITH RINGeDOT ABOVEcNGcKAF WITH THREE DOTS BELOWcGAF",
    "cGAF WITH RINGcNGOEHcGAF WITH TWO DOTS BELOWcGUEHcGAF WITH THREE DOTS ABOVEcLAM WITH SMALL V",
    "eDOT ABOVEeTHREE DOTS ABOVEgBELOWcNOON WITH DOT BELOWdGHUNNAcRNOONcNOON WITH RING",
    "eTHREE DOTS ABOVEcHEH DOACHASHMEEcTCHEH WITH DOT ABOVEcHEH WITH YEH ~dGOAL",
    "dGOAL WITH HAMZA ABOVEcTEH MARBUTA GOALcWAW WITH RINGcKIRGHIZ OEcOEcUcYUcKIRGHIZ YU",
    "cWAW WITH TWO DOTS ABOVEcVEcFARSI YEHcYEH WITH TAILeSMALL VcWAW WITH DOT ABOVEcE",
    "cYEH WITH THREE DOTS BELOWdBARREEdBARREE WITH HAMZA ABOVEbFULL STOPbLETTER AE",
    "bSMALL HIGH LIGATURE SAD WITH LAM WITH ALEF MAKSURAeQAF ~dMEEM INITIAL FORMdLAM ALEFdJEEM",
    "dTHREE DOTSdSEENbEND OF AYAHbSTART OF RUB EL HIZBbSMALL HIGH ROUNDED ZERO",
    "dUPRIGHT RECTANGULAR ZEROdDOTLESS HEAD OF KHAHdMEEM ISOLATED FORMcLOW SEENcHIGH MADDAcWAWcYEH",
    "cHIGH YEHdNOONbPLACE OF SAJDAHbEMPTY CENTRE LOW STOPdHIGH ~",
    "bROUNDED HIGH STOP WITH FILLED CENTREbSMALL LOW MEEMbLETTER DAL WITH INVERTED VcREH ~",
    "aEXTENDED ARABIC-INDIC DIGIT ZEROeONEeTWOeTHREEeFOUReFIVEeSIXeSEVENeEIGHTeNINE",
    "aARABIC LETTER SHEEN WITH DOT BELOWcDAD ~cGHAIN ~bSIGN SINDHI AMPERSANDdPOSTPOSITION MEN",
    "bLETTER HEH WITH INVERTED VaSYRIAC END OF PARAGRAPHbSUPRALINEAR FULL STOPbSUBLINEAR ~",
    "bSUPRALINEAR COLONbSUBLINEAR ~bHORIZONTAL ~bCOLON SKEWED LEFTdRIGHT",
    "bSUPRALINEAR COLON SKEWED LEFTbSUBLINEAR COLON SKEWED RIGHTbCONTRACTIONbHARKLEAN OBELUS",
    "cMETOBELUScASTERISCUS@70FbABBREVIATION MARKbLETTER ALAPHcSUPERSCRIPT ALAPHcBETHcGAMAL",
    "cGAMAL GARSHUNIcDALATHcDOTLESS DALATH RISHcHEcWAWcZAINcHETHcTETHcTETH GARSHUNIcYUDHcYUDH HE",
    "cKAPHcLAMADHcMIMcNUNcSEMKATHcFINAL SEMKATHcEcPEcREVERSED PEcSADHEcQAPHcRISHcSHINcTAW",
    "cPERSIAN BHETHdGHAMALdDHALATHbPTHAHA ABOVEcBELOWcDOTTEDbZQAPHA ABOVEcBELOWcDOTTEDbRBASA ABOVE",
    "cBELOWbDOTTED ZLAMA HORIZONTALdANGULARbHBASA ABOVEcBELOWbHBASA-ESASA DOTTEDbESASA ABOVEcBELOW",
    "bRWAHAbFEMININE DOTbQUSHSHAYAbRUKKAKHAbTWO VERTICAL DOTS ABOVEeBELOWbTHREE DOTS ABOVEdBELOW",
    "bOBLIQUE LINE ABOVEdBELOWbMUSICbBARREKH@74DbLETTER SOGDIAN ZHAINdKHAPHdFE",
    "aARABIC LETTER BEH WITH THREE DOTS HORIZONTALLY BELOWeDOT BELOW AND THREE DOTS ABOVE",
    "eTHREE DOTS POINTING UPWARDS BELOWiBELOW AND TWO DOTS ABOVEeTWO DOTS BELOW AND DOT ABOVE",
    "eINVERTED SMALL V BELOWeSMALL VcHAH WITH TWO DOTS ABOVEeTHREE DOTS POINTING UPWARDS BELOW",
    "cDAL WITH TWO DOTS VERTICALLY BELOW AND SMALL TAHeINVERTED SMALL V BELOWcREH WITH STROKE",
    "cSEEN WITH FOUR DOTS ABOVEcAIN WITH TWO ~eTHREE DOTS POINTING DOWNWARDS ABOVE",
    "eTWO DOTS VERTICALLY ABOVEcFEH WITH TWO DOTS BELOWeTHREE DOTS POINTING UPWARDS BELOW",
    "cKEHEH WITH DOT ABOVEeTHREE DOTS ABOVEgPOINTING UPWARDS BELOWcMEEM WITH DOT ABOVEfBELOW",
    "cNOON WITH TWO DOTS BELOWeSMALL TAHfVcLAM WITH BARcREH WITH TWO DOTS VERTICALLY ABOVE",
    "eHAMZA ABOVEcSEEN WITH TWO DOTS VERTICALLY ABOVEcHAH WITH SMALL ARABIC LETTER TAH BELOW",
    "iAND TWO DOTScSEEN ~cREH ~cHAH WITH SMALL ARABIC LETTER TAH ABOVE",
    "cALEF WITH EXTENDED ARABIC-INDIC DIGIT TWO ABOVEiTHREE ~",
    "cFARSI YEH WITH EXTENDED ARABIC-INDIC DIGIT TWO ABOVEjTHREE ~jFOUR BELOW",
    "cWAW WITH EXTENDED ARABIC-INDIC DIGIT TWO ABOVEiTHREE ~",
    "cYEH BARREE WITH EXTENDED ARABIC-INDIC DIGIT TWO ABOVEjTHREE ~",
    "cHAH WITH EXTENDED ARABIC-INDIC DIGIT FOUR BELOW",
    "cSEEN WITH EXTENDED ARABIC-INDIC DIGIT FOUR ABOVEeINVERTED VcKAF WITH TWO DOTS ABOVE",
    "aTHAANA LETTER HAAcSHAVIYANIcNOONUcRAAcBAAcLHAVIYANIcKAAFUcALIFUcVAAVUcMEEMUcFAAFUcDHAALU",
    "cTHAAcLAAMUcGAAFUcGNAVIYANIcSEENUcDAVIYANIcZAVIYANIcTAVIYANIcYAAcPAVIYANIcJAVIYANIcCHAVIYANI",
    "cTTAAcHHAAcKHAAcTHAALUcZAAcSHEENUcSAADHUcDAADHUcTOcZOcAINUcGHAINUcQAAFUcWAAVUbABAFILI",
    "bAABAAFILIbIBIFILIbEEBEEFILIbUBUFILIbOOBOOFILIbEBEFILIbEYBEYFILIbOBOFILIbOABOAFILIbSUKUN",
    "bLETTER NAA@7C0aNKO DIGIT ZEROcONEcTWOcTHREEcFOURcFIVEcSIXcSEVENcEIGHTcNINEbLETTER AcEEcIcEcU",
    "cOOcOcDAGBASINNAcNcBAcPAcTAcJAcCHAcDAcRAcRRAcSAcGBAcFAcKAcLAcNA WOLOSOcMAcNYAcNAcHAcWAcYA",
    "cNYA WOLOSOcJONA JAdCHAdRAbCOMBINING SHORT HIGH TONEdLOW ~dRISING ~cLONG DESCENDING ~dHIGH ~",
    "dLOW ~dRISING ~cNASALIZATION MARKcDOUBLE DOT ABOVEbHIGH TONE APOSTROPHEbLOW ~",
    "bSYMBOL OO DENNENcGBAKURUNENbCOMMAbEXCLAMATION MARKbLAJANYALAN@7FDbDANTAYALANbDOROME SIGN",
    "bTAMAN ~aSAMARITAN LETTER ALAFcBITcGAMANcDALATcIYcBAAcZENcITcTITcYUTcKAAFcLABATcMIMcNUN",
    "cSINGAATcINcFIcTSAADIYcQUFcRISHcSHANcTAAFbMARK INcIN-ALAFcOCCLUSIONcDAGESH",
    "bMODIFIER LETTER EPENTHETIC YUTbMARK EPENTHETIC YUTbVOWEL SIGN LONG EdEdOVERLONG AAdLONG ~dAA",
    "dOVERLONG AdLONG AdAbMODIFIER LETTER SHORT AbVOWEL SIGN ~dLONG UdUbMODIFIER LETTER I",
    "bVOWEL SIGN LONG IdIdOdSUKUNbMARK NEQUDAA@830bPUNCTUATION ~cAFSAAQcANGEDcBAUcATMAAU",
    "cSHIYYAALAAbABBREVIATION MARKbPUNCTUATION MELODIC QITSAcZIQAAcQITSAcZAEFcTURUcARKAANU",
    "cSOF MASHFAATcANNAAU@840aMANDAIC LETTER HALQAcABcAGcADcAHcUSHENNAcAZcITcATTcAKSAcAKcALcAMcAN",
    "cAScINcAPcASZcAQcARcASHcATcDUSHENNAcKADcAINbAFFRICATION MARKbVOCALIZATION ~bGEMINATION ~",
    "@85EbPUNCTUATION@860aSYRIAC LETTER MALAYALAM NGAdJAdNYAdTTAdNNAdNNNAdBHAdRAdLLAdLLLAdSSA",
    "@870aARABIC LETTER ALEF WITH ATTACHED FATHAfTOP RIGHT FATHAeRIGHT MIDDLE STROKEeLEFT ~",
    "eATTACHED KASRAfBOTTOM RIGHT KASRAfROUND DOT ABOVEfRIGHT ROUND DOTfLEFT ~fROUND DOT BELOW",
    "eDOT ABOVEeATTACHED TOP RIGHT FATHA AND DOT ABOVEeRIGHT MIDDLE STROKE AND DOT ABOVE",
    "eATTACHED BOTTOM RIGHT KASRA AND DOT ABOVEfTOP RIGHT FATHA AND LEFT RING",
    "eRIGHT MIDDLE STROKE AND LEFT RINGeATTACHED BOTTOM RIGHT KASRA AND LEFT RINGfRIGHT HAMZA",
    "fLEFT ~bTATWEEL WITH OVERSTRUCK HAMZAeWAWdTWO DOTS BELOWbLETTER THIN YEHbBASELINE ROUND DOT",
    "bRAISED ~bLETTER NOON WITH INVERTED SMALL VcHAH WITH INVERTED SMALL V BELOW",
    "cTAH WITH DOT BELOWeTHREE DOTS BELOWcKEHEH WITH TWO DOTS VERTICALLY BELOWbVERTICAL TAIL",
    "@890bPOUND MARK ABOVEbPIASTRE ~@898bSMALL HIGH WORD AL-JUZcLOW WORD ISHMAAMeIMAALAeTASHEEL",
    "bMADDA WAAJIBbSUPERSCRIPT ALEF MOKHASSASbDOUBLED MADDAbHALF MADDA OVER MADDA",
    "bLETTER BEH WITH SMALL V BELOWeHAMZA ABOVEcJEEM WITH TWO DOTS ABOVEcTAH ~",
    "cFEH WITH DOT BELOW AND THREE DOTS ABOVEcQAF WITH DOT BELOWcLAM WITH DOUBLE BAR",
    "cMEEM WITH THREE DOTS ABOVEcYEH WITH TWO DOTS BELOW AND HAMZA ABOVEiDOT ~cREH WITH LOOP",
    "cWAW WITH DOT WITHINcROHINGYA YEHcLOW ALEFcDAL WITH THREE DOTS BELOWcSAD ~",
    "cGAF WITH INVERTED STROKEcSTRAIGHT WAWcZAIN WITH INVERTED V ABOVEcAIN WITH THREE DOTS BELOW",
    "cKAF WITH DOT BELOWcQAF WITH DOT BELOW AND NO DOTS ABOVEcBEH WITH SMALL MEEM ABOVEcPEH ~",
    "cTEH WITH SMALL TEH ~cREH WITH SMALL NOON ~cYEH WITH TWO DOTS BELOW AND SMALL NOON ABOVE",
    "cAFRICAN FEHdQAFdNOONcPEH WITH SMALL VcTEH ~cTTEH ~cTCHEH ~cKEHEH ~",
    "cGHAIN WITH THREE DOTS ABOVEcAFRICAN QAF WITH THREE DOTS ABOVEcJEEM WITH THREE DOTS ABOVE",
    "gBELOWcLAM WITH SMALL ARABIC LETTER TAH ABOVEcGRAFbSMALL FARSI YEHcHIGH FARSI YEH",
    "dYEH BARREE WITH TWO DOTS BELOWdWORD SAHdZAHbLARGE ROUND DOT ABOVEeBELOWbSUKUN BELOW",
    "bLARGE CIRCLE BELOWcROUND DOT INSIDE CIRCLE BELOWbSMALL LOW WAWcHIGH WORD AR-RUBdSADdAINdQAF",
    "dNOON WITH KASRAcLOW ~cHIGH WORD ATH-THALATHAeAS-SAJDAeAN-NISFeSAKTAeQIFeWAQFA",
    "dFOOTNOTE MARKERdSIGN SAFHAbDISPUTED END OF AYAHbTURNED DAMMA BELOWbCURLY FATHAcDAMMAcKASRA",
    "cFATHATANcDAMMATANcKASRATANbTONE ONE DOT ABOVEcTWO DOTS ~cLOOP ABOVEcONE DOT BELOWcTWO DOTS ~",
    "cLOOP BELOWbOPEN FATHATANcDAMMATANcKASRATANbSMALL HIGH WAWbFATHA WITH RINGdDOT ABOVE",
    "bKASRA WITH DOT BELOWbLEFT ARROWHEAD ABOVEbRIGHT ~bLEFT ARROWHEAD BELOWbRIGHT ~",
    "bDOUBLE RIGHT ARROWHEAD ABOVEeABOVE WITH DOTbRIGHT ARROWHEAD ABOVE WITH DOTbDAMMA WITH DOT",
    "bMARK SIDEWAYS NOON GHUNNA"]

end JsonExpr.Text.CharacterName
