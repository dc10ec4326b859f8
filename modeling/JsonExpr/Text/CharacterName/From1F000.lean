/-!
The names of the characters from 1F000 to E01EF.
-/

namespace JsonExpr.Text.CharacterName

def from1F000 : List String :=
  ["@1F000aMAHJONG TILE EAST WINDcSOUTH ~cWEST ~cNORTH ~cRED DRAGONcGREEN ~cWHITE ~",
    "cONE OF CHARACTERScTWO ~cTHREE ~cFOUR ~cFIVE ~cSIX ~cSEVEN ~cEIGHT ~cNINE ~cONE OF BAMBOOS",
    "cTWO ~cTHREE ~cFOUR ~cFIVE ~cSIX ~cSEVEN ~cEIGHT ~cNINE ~cONE OF CIRCLEScTWO ~cTHREE ~cFOUR ~",
    "cFIVE ~cSIX ~cSEVEN ~cEIGHT ~cNINE ~cPLUMcORCHIDcBAMBOOcCHRYSANTHEMUMcSPRINGcSUMMERcAUTUMN",
    "cWINTERcJOKERcBACK@1F030aDOMINO TILE HORIZONTAL BACKcHORIZONTAL-00-00e01e02e03e04e05e06d01-00",
    "e01e02e03e04e05e06d02-00e01e02e03e04e05e06d03-00e01e02e03e04e05e06d04-00e01e02e03e04e05e06",
    "d05-00e01e02e03e04e05e06d06-00e01e02e03e04e05e06cVERTICAL BACKcVERTICAL-00-00e01e02e03e04e05",
    "e06d01-00e01e02e03e04e05e06d02-00e01e02e03e04e05e06d03-00e01e02e03e04e05e06d04-00e01e02e03e04",
    "e05e06d05-00e01e02e03e04e05e06d06-00e01e02e03e04e05e06@1F0A0aPLAYING CARD BACKcACE OF SPADES",
    "cTWO ~cTHREE ~cFOUR ~cFIVE ~cSIX ~cSEVEN ~cEIGHT ~cNINE ~cTEN ~cJACK ~cKNIGHT ~cQUEEN ~",
    "cKING ~@1F0B1cACE OF HEARTScTWO ~cTHREE ~cFOUR ~cFIVE ~cSIX ~cSEVEN ~cEIGHT ~cNINE ~cTEN ~",
    "cJACK ~cKNIGHT ~cQUEEN ~cKING ~cRED JOKER@1F0C1cACE OF DIAMONDScTWO ~cTHREE ~cFOUR ~cFIVE ~",
    "cSIX ~cSEVEN ~cEIGHT ~cNINE ~cTEN ~cJACK ~cKNIGHT ~cQUEEN ~cKING ~cBLACK JOKER",
    "@1F0D1cACE OF CLUBScTWO ~cTHREE ~cFOUR ~cFIVE ~cSIX ~cSEVEN ~cEIGHT ~cNINE ~cTEN ~cJACK ~",
    "cKNIGHT ~cQUEEN ~cKING ~cWHITE JOKERcFOOLcTRUMP-1d2d3d4d5d6d7d8d9d10d11d12d13d14d15d16d17d18",
    "d19d20d21@1F100aDIGIT ZERO FULL STOPcCOMMAbONE ~bTWO ~bTHREE ~bFOUR ~bFIVE ~bSIX ~bSEVEN ~",
    "bEIGHT ~bNINE ~aDINGBAT CIRCLED SANS-SERIF DIGIT ZERObNEGATIVE CIRCLED SANS-SERIF DIGIT ZERO",
    "aCIRCLED ZERO WITH SLASHbANTICLOCKWISE ARROWbDOLLAR SIGN WITH OVERLAID BACKSLASH",
    "aPARENTHESIZED LATIN CAPITAL LETTER AeBeCeDeEeFeGeHeIeJeKeLeMeNeOePeQeReSeTeUeVeWeXeYeZ",
    "aTORTOISE SHELL BRACKETED LATIN CAPITAL LETTER SaCIRCLED ITALIC LATIN CAPITAL LETTER CfRbCD",
    "bWZaCOPYLEFT SYMBOLaSQUARED LATIN CAPITAL LETTER AeBeCeDeEeFeGeHeIeJeKeLeMeNeOePeQeReSeTeUeV",
    "eWeXeYeZbHVbMVbSDbSSbPPVbWCaNEGATIVE CIRCLED LATIN CAPITAL LETTER AfBfCfDfEfFfGfHfIfJfKfLfMfN",
    "fOfPfQfRfSfTfUfVfWfXfYfZaRAISED MC SIGNbMD ~bMR ~aCIRCLED CCbC WITH OVERLAID BACKSLASH",
    "bHUMAN FIGUREaNEGATIVE SQUARED LATIN CAPITAL LETTER AfBfCfDfEfFfGfHfIfJfKfLfMfNfOfPfQfRfSfTfU",
    "fVfWfXfYfZaCROSSED NEGATIVE SQUARED LATIN CAPITAL LETTER PaNEGATIVE SQUARED ICcPAcSAcABcWC",
    "aSQUARE DJaSQUARED CLbCOOLbFREEbIDbNEWbNGbOKbSOSbUP WITH EXCLAMATION MARKbVSbTHREE D",
    "bSECOND SCREENbTWO KbFOUR KbEIGHT KbFIVE POINT ONEbSEVEN ~bTWENTY-TWO POINT TWObSIXTY P",
    "bONE HUNDRED TWENTY PbLATIN SMALL LETTER DbHCbHDRbHI-RESbLOSSLESSbSHVbUHDbVOD",
    "aMASK WORK SYMBOL@1F1E6aREGIONAL INDICATOR SYMBOL LETTER AeBeCeDeEeFeGeHeIeJeKeLeMeNeOePeQeR",
    "eSeTeUeVeWeXeYeZaSQUARE HIRAGANA HOKAaSQUARED KATAKANA KOKOcSA",
    "@1F210bCJK UNIFIED IDEOGRAPH-624Be5B57e53CCbKATAKANA DEbCJK UNIFIED IDEOGRAPH-4E8Ce591Ae89E3",
    "e5929e4EA4e6620e7121e6599e524De5F8Ce518De65B0e521De7D42e751Fe8CA9e58F0e5439e6F14e6295e6355",
    "e4E00e4E09e904Ae5DE6e4E2De53F3e6307e8D70e6253e7981e7A7Ae5408e6E80e6709e6708e7533e5272e55B6",
    "e914D@1F240aTORTOISE SHELL BRACKETED CJK UNIFIED IDEOGRAPH-672Cg4E09g4E8Cg5B89g70B9g6253g76D7",
    "g52DDg6557@1F250aCIRCLED IDEOGRAPH ADVANTAGEcACCEPT@1F260aROUNDED SYMBOL FOR FUdLUdSHOUdXI",
    "dSHUANGXIdCAI@1F300aCYCLONEaFOGGYaCLOSED UMBRELLAaNIGHT WITH STARSaSUNRISE OVER MOUNTAINS",
    "aSUNRISEaCITYSCAPE AT DUSKaSUNSET OVER BUILDINGSaRAINBOWaBRIDGE AT NIGHTaWATER WAVEaVOLCANO",
    "aMILKY WAYaEARTH GLOBE EUROPE-AFRICAcAMERICAScASIA-AUSTRALIAaGLOBE WITH MERIDIANS",
    "aNEW MOON SYMBOLaWAXING CRESCENT MOON SYMBOLaFIRST QUARTER ~aWAXING GIBBOUS ~",
    "aFULL MOON SYMBOLaWANING GIBBOUS MOON SYMBOLaLAST QUARTER ~aWANING CRESCENT ~aCRESCENT MOON",
    "aNEW MOON WITH FACEaFIRST QUARTER MOON WITH FACEaLAST ~aFULL MOON WITH FACEaSUN WITH FACE",
    "aGLOWING STARaSHOOTING ~aTHERMOMETERaBLACK DROPLETaWHITE SUNbSUN WITH SMALL CLOUD",
    "cBEHIND CLOUDdCLOUD WITH RAINaCLOUD WITH RAINcSNOWcLIGHTNINGcTORNADOaFOGaWIND BLOWING FACE",
    "aHOT DOGaTACOaBURRITOaCHESTNUTaSEEDLINGaEVERGREEN TREEaDECIDUOUS ~aPALM ~aCACTUSaHOT PEPPER",
    "aTULIPaCHERRY BLOSSOMaROSEaHIBISCUSaSUNFLOWERaBLOSSOMaEAR OF MAIZEcRICEaHERBaFOUR LEAF CLOVER",
    "aMAPLE LEAFaFALLEN ~aLEAF FLUTTERING IN WINDaMUSHROOMaTOMATOaAUBERGINEaGRAPESaMELON",
    "aWATERMELONaTANGERINEaLEMONaBANANAaPINEAPPLEaRED APPLEaGREEN ~aPEARaPEACHaCHERRIESaSTRAWBERRY",
    "aHAMBURGERaSLICE OF PIZZAaMEAT ON BONEaPOULTRY LEGaRICE CRACKERbBALLaCOOKED RICE",
    "aCURRY AND RICEaSTEAMING BOWLaSPAGHETTIaBREADaFRENCH FRIESaROASTED SWEET POTATOaDANGOaODEN",
    "aSUSHIaFRIED SHRIMPaFISH CAKE WITH SWIRL DESIGNaSOFT ICE CREAMaSHAVED ICEaICE CREAMaDOUGHNUT",
    "aCOOKIEaCHOCOLATE BARaCANDYaLOLLIPOPaCUSTARDaHONEY POTaSHORTCAKEaBENTO BOXaPOT OF FOOD",
    "aCOOKINGaFORK AND KNIFEaTEACUP WITHOUT HANDLEaSAKE BOTTLE AND CUPaWINE GLASSaCOCKTAIL ~",
    "aTROPICAL DRINKaBEER MUGaCLINKING BEER MUGSaBABY BOTTLEaFORK AND KNIFE WITH PLATE",
    "aBOTTLE WITH POPPING CORKaPOPCORNaRIBBONaWRAPPED PRESENTaBIRTHDAY CAKEaJACK-O-LANTERN",
    "aCHRISTMAS TREEaFATHER CHRISTMASaFIREWORKSaFIREWORK SPARKLERaBALLOONaPARTY POPPER",
    "aCONFETTI BALLaTANABATA TREEaCROSSED FLAGSaPINE DECORATIONaJAPANESE DOLLSaCARP STREAMER",
    "aWIND CHIMEaMOON VIEWING CEREMONYaSCHOOL SATCHELaGRADUATION CAPaHEART WITH TIP ON THE LEFT",
    "aBOUQUET OF FLOWERSaMILITARY MEDALaREMINDER RIBBONaMUSICAL KEYBOARD WITH JACKS",
    "aSTUDIO MICROPHONEaLEVEL SLIDERaCONTROL KNOBSaBEAMED ASCENDING MUSICAL NOTESbDESCENDING ~",
    "aFILM FRAMESaADMISSION TICKETSaCAROUSEL HORSEaFERRIS WHEELaROLLER COASTER",
    "aFISHING POLE AND FISHaMICROPHONEaMOVIE CAMERAaCINEMAaHEADPHONEaARTIST PALETTEaTOP HAT",
    "aCIRCUS TENTaTICKETaCLAPPER BOARDaPERFORMING ARTSaVIDEO GAMEaDIRECT HITaSLOT MACHINE",
    "aBILLIARDSaGAME DIEaBOWLINGaFLOWER PLAYING CARDSaMUSICAL NOTEaMULTIPLE MUSICAL NOTES",
    "aSAXOPHONEaGUITARaMUSICAL KEYBOARDaTRUMPETaVIOLINaMUSICAL SCOREaRUNNING SHIRT WITH SASH",
    "aTENNIS RACQUET AND BALLaSKI AND SKI BOOTaBASKETBALL AND HOOPaCHEQUERED FLAGaSNOWBOARDER",
    "aRUNNERaSURFERaSPORTS MEDALaTROPHYaHORSE RACINGaAMERICAN FOOTBALLaRUGBY ~aSWIMMER",
    "aWEIGHT LIFTERaGOLFERaRACING MOTORCYCLEbCARaCRICKET BAT AND BALLaVOLLEYBALL",
    "aFIELD HOCKEY STICK AND BALLaICE HOCKEY STICK AND PUCKaTABLE TENNIS PADDLE AND BALL",
    "aSNOW CAPPED MOUNTAINaCAMPINGaBEACH WITH UMBRELLAaBUILDING CONSTRUCTIONaHOUSE BUILDINGS",
    "aCITYSCAPEaDERELICT HOUSE BUILDINGaCLASSICAL BUILDINGaDESERTaDESERT ISLANDaNATIONAL PARK",
    "aSTADIUMaHOUSE BUILDINGbWITH GARDENaOFFICE BUILDINGaJAPANESE POST OFFICEaEUROPEAN ~aHOSPITAL",
    "aBANKaAUTOMATED TELLER MACHINEaHOTELaLOVE HOTELaCONVENIENCE STOREaSCHOOLaDEPARTMENT STORE",
    "aFACTORYaIZAKAYA LANTERNaJAPANESE CASTLEaEUROPEAN ~aWHITE PENNANTaBLACK ~aWAVING WHITE FLAG",
    "bBLACK ~aROSETTEaBLACK ROSETTEaLABELaBADMINTON RACQUET AND SHUTTLECOCKaBOW AND ARROWaAMPHORA",
    "aEMOJI MODIFIER FITZPATRICK TYPE-1-2e3e4e5e6aRATaMOUSEaOXaWATER BUFFALOaCOWaTIGERaLEOPARD",
    "aRABBITaCATaDRAGONaCROCODILEaWHALEaSNAILaSNAKEaHORSEaRAMaGOATaSHEEPaMONKEYaROOSTERaCHICKEN",
    "aDOGaPIGaBOARaELEPHANTaOCTOPUSaSPIRAL SHELLaBUGaANTaHONEYBEEaLADY BEETLEaFISHaTROPICAL FISH",
    "aBLOWFISHaTURTLEaHATCHING CHICKaBABY ~aFRONT-FACING BABY CHICKaBIRDaPENGUINaKOALAaPOODLE",
    "aDROMEDARY CAMELaBACTRIAN ~aDOLPHINaMOUSE FACEaCOW ~aTIGER ~aRABBIT ~aCAT ~aDRAGON ~",
    "aSPOUTING WHALEaHORSE FACEaMONKEY ~aDOG ~aPIG ~aFROG ~aHAMSTER ~aWOLF ~aBEAR ~aPANDA ~",
    "aPIG NOSEaPAW PRINTSaCHIPMUNKaEYESaEYEaEARaNOSEaMOUTHaTONGUEaWHITE UP POINTING BACKHAND INDEX",
    "bDOWN ~bLEFT ~bRIGHT ~aFISTED HAND SIGNaWAVING ~aOK ~aTHUMBS UP ~bDOWN ~aCLAPPING HANDS ~",
    "aOPEN ~aCROWNaWOMANS HATaEYEGLASSESaNECKTIEaT-SHIRTaJEANSaDRESSaKIMONOaBIKINIaWOMANS CLOTHES",
    "aPURSEaHANDBAGaPOUCHaMANS SHOEaATHLETIC ~aHIGH-HEELED SHOEaWOMANS SANDALbBOOTSaFOOTPRINTS",
    "aBUST IN SILHOUETTEaBUSTS ~aBOYaGIRLaMANaWOMANaFAMILYaMAN AND WOMAN HOLDING HANDS",
    "aTWO MEN HOLDING HANDSbWOMEN ~aPOLICE OFFICERaWOMAN WITH BUNNY EARSaBRIDE WITH VEIL",
    "aPERSON WITH BLOND HAIRaMAN WITH GUA PI MAOcTURBANaOLDER MANbWOMANaBABYaCONSTRUCTION WORKER",
    "aPRINCESSaJAPANESE OGREbGOBLINaGHOSTaBABY ANGELaEXTRATERRESTRIAL ALIENaALIEN MONSTERaIMP",
    "aSKULLaINFORMATION DESK PERSONaGUARDSMANaDANCERaLIPSTICKaNAIL POLISHaFACE MASSAGEaHAIRCUT",
    "aBARBER POLEaSYRINGEaPILLaKISS MARKaLOVE LETTERaRINGaGEM STONEaKISSaBOUQUETaCOUPLE WITH HEART",
    "aWEDDINGaBEATING HEARTaBROKEN ~aTWO HEARTSaSPARKLING HEARTaGROWING ~aHEART WITH ARROW",
    "aBLUE HEARTaGREEN ~aYELLOW ~aPURPLE ~aHEART WITH RIBBONaREVOLVING HEARTSaHEART DECORATION",
    "aDIAMOND SHAPE WITH A DOT INSIDEaELECTRIC LIGHT BULBaANGER SYMBOLaBOMBaSLEEPING SYMBOL",
    "aCOLLISION ~aSPLASHING SWEAT SYMBOLaDROPLETaDASH SYMBOLaPILE OF POOaFLEXED BICEPS",
    "aDIZZY SYMBOLaSPEECH BALLOONaTHOUGHT ~aWHITE FLOWERaHUNDRED POINTS SYMBOLaMONEY BAG",
    "aCURRENCY EXCHANGEaHEAVY DOLLAR SIGNaCREDIT CARDaBANKNOTE WITH YEN SIGNcDOLLAR ~cEURO ~",
    "cPOUND ~aMONEY WITH WINGSaCHART WITH UPWARDS TREND AND YEN SIGNaSEATaPERSONAL COMPUTER",
    "aBRIEFCASEaMINIDISCaFLOPPY DISKaOPTICAL DISCaDVDaFILE FOLDERaOPEN FILE FOLDERaPAGE WITH CURL",
    "bFACING UPaCALENDARaTEAR-OFF CALENDARaCARD INDEXaCHART WITH UPWARDS TRENDcDOWNWARDS ~",
    "aBAR CHARTaCLIPBOARDaPUSHPINaROUND PUSHPINaPAPERCLIPaSTRAIGHT RULERaTRIANGULAR ~",
    "aBOOKMARK TABSaLEDGERaNOTEBOOKaNOTEBOOK WITH DECORATIVE COVERaCLOSED BOOKaOPEN ~aGREEN ~",
    "aBLUE ~aORANGE ~aBOOKSaNAME BADGEaSCROLLaMEMOaTELEPHONE RECEIVERaPAGERaFAX MACHINE",
    "aSATELLITE ANTENNAaPUBLIC ADDRESS LOUDSPEAKERaCHEERING MEGAPHONEaOUTBOX TRAYaINBOX ~aPACKAGE",
    "aE-MAIL SYMBOLaINCOMING ENVELOPEaENVELOPE WITH DOWNWARDS ARROW ABOVE",
    "aCLOSED MAILBOX WITH LOWERED FLAGdRAISED ~aOPEN ~dLOWERED ~aPOSTBOXaPOSTAL HORNaNEWSPAPER",
    "aMOBILE PHONEbPHONE WITH RIGHTWARDS ARROW AT LEFTaVIBRATION MODEaMOBILE PHONE OFF",
    "aNO MOBILE PHONESaANTENNA WITH BARSaCAMERAaCAMERA WITH FLASHaVIDEO CAMERAaTELEVISIONaRADIO",
    "aVIDEOCASSETTEaFILM PROJECTORaPORTABLE STEREOaPRAYER BEADSaTWISTED RIGHTWARDS ARROWS",
    "aCLOCKWISE RIGHTWARDS AND LEFTWARDS OPEN CIRCLE ARROWSgARROWS WITH CIRCLED ONE OVERLAY",
    "bDOWNWARDS AND UPWARDS OPEN CIRCLE ARROWSaANTICLOCKWISE ~aLOW BRIGHTNESS SYMBOLaHIGH ~",
    "aSPEAKER WITH CANCELLATION STROKEaSPEAKERaSPEAKER WITH ONE SOUND WAVEcTHREE SOUND WAVES",
    "aBATTERYaELECTRIC PLUGaLEFT-POINTING MAGNIFYING GLASSaRIGHT-~aLOCK WITH INK PEN",
    "aCLOSED LOCK WITH KEYaKEYaLOCKaOPEN LOCKaBELLaBELL WITH CANCELLATION STROKEaBOOKMARK",
    "aLINK SYMBOLaRADIO BUTTONaBACK WITH LEFTWARDS ARROW ABOVEaEND ~",
    "aON WITH EXCLAMATION MARK WITH LEFT RIGHT ARROW ABOVEaSOON WITH RIGHTWARDS ARROW ABOVE",
    "aTOP WITH UPWARDS ~aNO ONE UNDER EIGHTEEN SYMBOLaKEYCAP TEN",
    "aINPUT SYMBOL FOR LATIN CAPITAL LETTERSeSMALL ~dNUMBERSdSYMBOLSdLATIN LETTERSaFIRE",
    "aELECTRIC TORCHaWRENCHaHAMMERaNUT AND BOLTaHOCHOaPISTOLaMICROSCOPEaTELESCOPEaCRYSTAL BALL",
    "aSIX POINTED STAR WITH MIDDLE DOTaJAPANESE SYMBOL FOR BEGINNERaTRIDENT EMBLEM",
    "aBLACK SQUARE BUTTONaWHITE ~aLARGE RED CIRCLEbBLUE ~bORANGE DIAMONDbBLUE ~aSMALL ORANGE ~",
    "bBLUE ~aUP-POINTING RED TRIANGLEaDOWN-~aUP-POINTING SMALL RED TRIANGLEaDOWN-~",
    "aLOWER RIGHT SHADOWED WHITE CIRCLEaUPPER ~aCIRCLED CROSS POMMEE",
    "aCROSS POMMEE WITH HALF-CIRCLE BELOWbPOMMEEaNOTCHED LEFT SEMICIRCLE WITH THREE DOTSbRIGHT ~",
    "aSYMBOL FOR MARKS CHAPTERaWHITE LATIN CROSSaHEAVY ~aCELTIC CROSSaOM SYMBOLaDOVE OF PEACE",
    "aKAABAaMOSQUEaSYNAGOGUEaMENORAH WITH NINE BRANCHESaBOWL OF HYGIEIAaCLOCK FACE ONE OCLOCK",
    "cTWO ~cTHREE ~cFOUR ~cFIVE ~cSIX ~cSEVEN ~cEIGHT ~cNINE ~cTEN ~cELEVEN ~cTWELVE ~cONE-THIRTY",
    "cTWO-~cTHREE-~cFOUR-~cFIVE-~cSIX-~cSEVEN-~cEIGHT-~cNINE-~cTEN-~cELEVEN-~cTWELVE-~",
    "aRIGHT SPEAKERbSPEAKER WITH ONE SOUND WAVEdTHREE SOUND WAVESaBULLHORN",
    "aBULLHORN WITH SOUND WAVESaRINGING BELLaBOOKaCANDLEaMANTELPIECE CLOCK",
    "aBLACK SKULL AND CROSSBONESaNO PIRACYaHOLEaMAN IN BUSINESS SUIT LEVITATINGaSLEUTH OR SPY",
    "aDARK SUNGLASSESaSPIDERaSPIDER WEBaJOYSTICKaMAN DANCINGaLEFT HAND TELEPHONE RECEIVER",
    "aTELEPHONE RECEIVER WITH PAGEaRIGHT HAND TELEPHONE RECEIVERaWHITE TOUCHTONE TELEPHONEaBLACK ~",
    "aTELEPHONE ON TOP OF MODEMaCLAMSHELL MOBILE PHONEaBACK OF ENVELOPEaSTAMPED ENVELOPE",
    "aENVELOPE WITH LIGHTNINGaFLYING ENVELOPEaPEN OVER STAMPED ENVELOPEaLINKED PAPERCLIPS",
    "aBLACK PUSHPINaLOWER LEFT PENCILcBALLPOINT PENcFOUNTAIN ~cPAINTBRUSHcCRAYONaLEFT WRITING HAND",
    "aTURNED OK HAND SIGNaRAISED HAND WITH FINGERS SPLAYED",
    "aREVERSED RAISED HAND WITH FINGERS SPLAYEDbTHUMBS UP SIGNcDOWN ~bVICTORY HAND",
    "bHAND WITH MIDDLE FINGER EXTENDEDaRAISED HAND WITH PART BETWEEN MIDDLE AND RING FINGERS",
    "aWHITE DOWN POINTING LEFT HAND INDEXaSIDEWAYS WHITE LEFT POINTING INDEXcRIGHT ~bBLACK LEFT ~",
    "cRIGHT ~aBLACK LEFT POINTING BACKHAND ~bRIGHT ~aSIDEWAYS WHITE UP POINTING ~cDOWN ~",
    "bBLACK UP ~cDOWN ~aBLACK UP POINTING BACKHAND ~bDOWN ~bHEARTaDESKTOP COMPUTER",
    "aKEYBOARD AND MOUSEaTHREE NETWORKED COMPUTERSaPRINTERaPOCKET CALCULATOR",
    "aBLACK HARD SHELL FLOPPY DISKaWHITE ~aSOFT SHELL FLOPPY DISKaTAPE CARTRIDGEaWIRED KEYBOARD",
    "aONE BUTTON MOUSEaTWO ~aTHREE ~aTRACKBALLaOLD PERSONAL COMPUTERaHARD DISKaSCREENaPRINTER ICON",
    "aFAX ~aOPTICAL DISC ICONaDOCUMENT WITH TEXTcTEXT AND PICTUREcPICTUREaFRAME ~cTILEScAN X",
    "aBLACK FOLDERaFOLDERaOPEN FOLDERaCARD INDEX DIVIDERSbFILE BOXaFILE CABINETaEMPTY NOTE",
    "bNOTE PAGEcPADaNOTEaNOTE PAGEbPADaEMPTY DOCUMENTbPAGEbPAGESaDOCUMENTaPAGEaPAGESaWASTEBASKET",
    "aSPIRAL NOTE PADbCALENDAR ~aDESKTOP WINDOWaMINIMIZEaMAXIMIZEaOVERLAP",
    "aCLOCKWISE RIGHT AND LEFT SEMICIRCLE ARROWSaCANCELLATION XaINCREASE FONT SIZE SYMBOL",
    "aDECREASE ~aCOMPRESSIONaOLD KEYaROLLED-UP NEWSPAPERaPAGE WITH CIRCLED TEXTaSTOCK CHART",
    "aDAGGER KNIFEaLIPSaSPEAKING HEAD IN SILHOUETTEaTHREE RAYS ABOVEcBELOWcLEFTcRIGHT",
    "aLEFT SPEECH BUBBLEaRIGHT ~aTWO SPEECH BUBBLESaTHREE ~aLEFT THOUGHT BUBBLEaRIGHT ~",
    "aLEFT ANGER ~aRIGHT ~aMOOD BUBBLEaLIGHTNING MOOD BUBBLEbMOODaBALLOT BOX WITH BALLOTbSCRIPT X",
    "bBOX WITH SCRIPT XbBOLD SCRIPT XbBOX WITH BOLD SCRIPT XaLIGHT CHECK MARK",
    "aBALLOT BOX WITH BOLD CHECKaWORLD MAPaMOUNT FUJIaTOKYO TOWERaSTATUE OF LIBERTY",
    "aSILHOUETTE OF JAPANaMOYAIaGRINNING FACEbFACE WITH SMILING EYESaFACE WITH TEARS OF JOY",
    "aSMILING FACE WITH OPEN MOUTHeMOUTH AND SMILING EYESgCOLD SWEATgTIGHTLY-CLOSED EYESdHALO",
    "dHORNSaWINKING FACEaSMILING FACE WITH SMILING EYESaFACE SAVOURING DELICIOUS FOOD",
    "aRELIEVED FACEaSMILING FACE WITH HEART-SHAPED EYESdSUNGLASSESaSMIRKING FACEaNEUTRAL ~",
    "aEXPRESSIONLESS ~aUNAMUSED ~aFACE WITH COLD SWEATaPENSIVE FACEaCONFUSED ~aCONFOUNDED ~",
    "aKISSING ~aFACE THROWING A KISSaKISSING FACE WITH SMILING EYESdCLOSED ~",
    "aFACE WITH STUCK-OUT TONGUEeTONGUE AND WINKING EYEgTIGHTLY-CLOSED EYESaDISAPPOINTED FACE",
    "aWORRIED ~aANGRY ~aPOUTING ~aCRYING ~aPERSEVERING ~aFACE WITH LOOK OF TRIUMPH",
    "aDISAPPOINTED BUT RELIEVED FACEaFROWNING FACE WITH OPEN MOUTHaANGUISHED FACEaFEARFUL ~",
    "aWEARY ~aSLEEPY ~aTIRED ~aGRIMACING ~aLOUDLY CRYING FACEaFACE WITH OPEN MOUTHaHUSHED FACE",
    "aFACE WITH OPEN MOUTH AND COLD SWEATbSCREAMING IN FEARaASTONISHED FACEaFLUSHED ~aSLEEPING ~",
    "aDIZZY ~aFACE WITHOUT MOUTHbWITH MEDICAL MASKaGRINNING CAT FACE WITH SMILING EYES",
    "aCAT FACE WITH TEARS OF JOYaSMILING CAT FACE WITH OPEN MOUTHeHEART-SHAPED EYES",
    "aCAT FACE WITH WRY SMILEaKISSING CAT FACE WITH CLOSED EYESaPOUTING CAT FACEaCRYING ~aWEARY ~",
    "aSLIGHTLY FROWNING ~bSMILING ~aUPSIDE-DOWN ~aFACE WITH ROLLING EYEScNO GOOD GESTURE",
    "cOK GESTUREaPERSON BOWING DEEPLYaSEE-NO-EVIL MONKEYaHEAR-~aSPEAK-~",
    "aHAPPY PERSON RAISING ONE HANDaPERSON RAISING BOTH HANDS IN CELEBRATIONbFROWNING",
    "bWITH POUTING FACEcFOLDED HANDSaNORTH WEST POINTING LEAFaSOUTH ~aNORTH EAST ~aSOUTH ~",
    "aTURNED NORTH WEST POINTING LEAFbSOUTH ~bNORTH EAST ~bSOUTH ~aNORTH WEST POINTING VINE ~",
    "aSOUTH ~aNORTH EAST ~aSOUTH ~aHEAVY NORTH WEST POINTING VINE LEAFbSOUTH ~bNORTH EAST ~",
    "bSOUTH ~aNORTH WEST POINTING BUDaSOUTH ~aNORTH EAST ~aSOUTH ~aHEAVY NORTH WEST POINTING BUD",
    "bSOUTH ~bNORTH EAST ~bSOUTH ~aHOLLOW QUILT SQUARE ORNAMENTdORNAMENT IN BLACK SQUARE",
    "aSOLID QUILT SQUARE ORNAMENTdORNAMENT IN BLACK SQUAREaLEFTWARDS ROCKETaUPWARDS ~aRIGHTWARDS ~",
    "aDOWNWARDS ~aSCRIPT LIGATURE ET ORNAMENTaHEAVY SCRIPT LIGATURE ET ORNAMENT",
    "aLIGATURE OPEN ET ORNAMENTaHEAVY LIGATURE OPEN ET ORNAMENTbAMPERSAND ORNAMENTaSWASH ~",
    "aSANS-SERIF HEAVY DOUBLE TURNED COMMA QUOTATION MARK ORNAMENTeCOMMA QUOTATION MARK ORNAMENT",
    "dLOW DOUBLE COMMA QUOTATION MARK ORNAMENTaHEAVY INTERROBANG ORNAMENT",
    "aSANS-SERIF INTERROBANG ORNAMENTaHEAVY SANS-SERIF INTERROBANG ORNAMENTaVERY HEAVY SOLIDUS",
    "cREVERSE SOLIDUSaCHECKER BOARDaREVERSE CHECKER BOARDaROCKETaHELICOPTERaSTEAM LOCOMOTIVE",
    "aRAILWAY CARaHIGH-SPEED TRAINcTRAIN WITH BULLET NOSEaTRAINaMETROaLIGHT RAILaSTATIONaTRAM",
    "aTRAM CARaBUSaONCOMING BUSaTROLLEYBUSaBUS STOPaMINIBUSaAMBULANCEaFIRE ENGINEaPOLICE CAR",
    "aONCOMING POLICE CARaTAXIaONCOMING TAXIaAUTOMOBILEaONCOMING AUTOMOBILEaRECREATIONAL VEHICLE",
    "aDELIVERY TRUCKaARTICULATED LORRYaTRACTORaMONORAILaMOUNTAIN RAILWAYaSUSPENSION ~",
    "aMOUNTAIN CABLEWAYaAERIAL TRAMWAYaSHIPaROWBOATaSPEEDBOATaHORIZONTAL TRAFFIC LIGHTaVERTICAL ~",
    "aCONSTRUCTION SIGNaPOLICE CARS REVOLVING LIGHTaTRIANGULAR FLAG ON POSTaDOORaNO ENTRY SIGN",
    "aSMOKING SYMBOLaNO SMOKING SYMBOLaPUT LITTER IN ITS PLACE SYMBOLaDO NOT LITTER SYMBOL",
    "aPOTABLE WATER SYMBOLaNON-POTABLE WATER SYMBOLaBICYCLEaNO BICYCLESaBICYCLIST",
    "aMOUNTAIN BICYCLISTaPEDESTRIANaNO PEDESTRIANSaCHILDREN CROSSINGaMENS SYMBOLaWOMENS ~aRESTROOM",
    "aBABY SYMBOLaTOILETaWATER CLOSETaSHOWERaBATHaBATHTUBaPASSPORT CONTROLaCUSTOMSaBAGGAGE CLAIM",
    "aLEFT LUGGAGEaTRIANGLE WITH ROUNDED CORNERSaPROHIBITED SIGNaCIRCLED INFORMATION SOURCE",
    "aBOYS SYMBOLaGIRLS ~aCOUCH AND LAMPaSLEEPING ACCOMMODATIONaSHOPPING BAGSaBELLHOP BELLaBED",
    "aPLACE OF WORSHIPaOCTAGONAL SIGNaSHOPPING TROLLEYaSTUPAaPAGODAaHINDU TEMPLEaHUTaELEVATOR",
    "@1F6DDaPLAYGROUND SLIDEaWHEELaRING BUOYaHAMMER AND WRENCHaSHIELDaOIL DRUMaMOTORWAY",
    "aRAILWAY TRACKaMOTOR BOATaUP-POINTING MILITARY AIRPLANEcAIRPLANEcSMALL AIRPLANE",
    "aSMALL AIRPLANEaNORTHEAST-POINTING AIRPLANEaAIRPLANE DEPARTUREbARRIVING@1F6F0aSATELLITE",
    "aONCOMING FIRE ENGINEaDIESEL LOCOMOTIVEaPASSENGER SHIPaSCOOTERaMOTOR SCOOTERaCANOEaSLED",
    "aFLYING SAUCERaSKATEBOARDaAUTO RICKSHAWaPICKUP TRUCKaROLLER SKATE",
    "@1F700aALCHEMICAL SYMBOL FOR QUINTESSENCEdAIRdFIREdEARTHdWATERdAQUAFORTISdAQUA REGIAeREGIA-2",
    "eVITAEeVITAE-2dVINEGARdVINEGAR-2e3dSULFURdPHILOSOPHERS SULFURdBLACK ~dMERCURY SUBLIMATE",
    "eSUBLIMATE-2f3dCINNABARdSALTdNITREdVITRIOLdVITRIOL-2dROCK SALTeSALT-2dGOLDdSILVERdIRON ORE",
    "eORE-2dCROCUS OF IRONdREGULUS ~dCOPPER OREdIRON-COPPER OREdSUBLIMATE OF COPPERdCROCUS ~",
    "fCOPPER-2dCOPPER ANTIMONIATEdSALT OF COPPER ANTIMONIATEdSUBLIMATE OF SALT OF COPPERdVERDIGRIS",
    "dTIN OREdLEAD ~dANTIMONY ~dSUBLIMATE OF ANTIMONYdSALT ~dSUBLIMATE OF SALT OF ANTIMONY",
    "dVINEGAR OF ANTIMONYdREGULUS ~fANTIMONY-2dREGULUSdREGULUS-2e3e4dALKALIdALKALI-2dMARCASITE",
    "dSAL-AMMONIACdARSENICdREALGARdREALGAR-2dAURIPIGMENTdBISMUTH OREdTARTARdTARTAR-2dQUICK LIME",
    "dBORAXdBORAX-2e3dALUMdOILdSPIRITdTINCTUREdGUMdWAXdPOWDERdCALXdTUTTYdCAPUT MORTUUM",
    "dSCEPTER OF JOVEdCADUCEUSdTRIDENTdSTARRED TRIDENTdLODESTONEdSOAPdURINEdHORSE DUNGdASHES",
    "dPOT ASHESdBRICKdPOWDERED BRICKdAMALGAMdSTRATUM SUPER STRATUMfSTRATUM-2dSUBLIMATION",
    "dPRECIPITATEdDISTILLdDISSOLVEdDISSOLVE-2dPURIFYdPUTREFACTIONdCRUCIBLEdCRUCIBLE-2e3e4e5",
    "dALEMBICdBATH OF MARYfVAPOURSdRETORTdHOURdNIGHTdDAY-NIGHTdMONTHdHALF DRAMeOUNCE",
    "@1F780aBLACK LEFT-POINTING ISOSCELES RIGHT TRIANGLEbUP-~bRIGHT-~bDOWN-~bSLIGHTLY SMALL CIRCLE",
    "aMEDIUM BOLD WHITE ~aBOLD WHITE CIRCLEaHEAVY ~aVERY HEAVY WHITE CIRCLEaEXTREMELY ~",
    "aWHITE CIRCLE CONTAINING BLACK SMALL CIRCLEaROUND TARGETaBLACK TINY SQUARE",
    "bSLIGHTLY SMALL SQUAREaLIGHT WHITE SQUAREaMEDIUM ~aBOLD ~aHEAVY ~aVERY HEAVY WHITE SQUARE",
    "aEXTREMELY ~aWHITE SQUARE CONTAINING BLACK VERY SMALL SQUAREeMEDIUM SQUAREaSQUARE TARGET",
    "aBLACK TINY DIAMONDbVERY SMALL DIAMONDbMEDIUM ~",
    "aWHITE DIAMOND CONTAINING BLACK VERY SMALL DIAMONDeMEDIUM DIAMONDaDIAMOND TARGET",
    "aBLACK TINY LOZENGEbVERY SMALL LOZENGEbMEDIUM ~aWHITE LOZENGE CONTAINING BLACK SMALL LOZENGE",
    "aTHIN GREEK CROSSaLIGHT ~aMEDIUM ~aBOLD ~aVERY BOLD GREEK CROSSbHEAVY ~aEXTREMELY ~",
    "aTHIN SALTIREaLIGHT ~aMEDIUM ~aBOLD ~aHEAVY ~aVERY HEAVY SALTIREaEXTREMELY ~",
    "aLIGHT FIVE SPOKED ASTERISKaMEDIUM ~aBOLD ~aHEAVY ~aVERY HEAVY FIVE SPOKED ASTERISK",
    "aEXTREMELY ~aLIGHT SIX SPOKED ASTERISKaMEDIUM ~aBOLD ~aHEAVY ~aVERY HEAVY SIX SPOKED ASTERISK",
    "aEXTREMELY ~aLIGHT EIGHT SPOKED ASTERISKaMEDIUM ~aBOLD ~aHEAVY ~",
    "aVERY HEAVY EIGHT SPOKED ASTERISKaLIGHT THREE POINTED BLACK STARaMEDIUM ~",
    "aTHREE POINTED BLACK STARaMEDIUM THREE POINTED PINWHEEL STARaLIGHT FOUR POINTED BLACK ~",
    "aMEDIUM ~aFOUR POINTED BLACK STARaMEDIUM FOUR POINTED PINWHEEL STAR",
    "aREVERSE LIGHT FOUR POINTED PINWHEEL STARaLIGHT FIVE POINTED BLACK STARaHEAVY ~aMEDIUM SIX ~",
    "aHEAVY ~aSIX POINTED PINWHEEL STARaMEDIUM EIGHT POINTED BLACK STARaHEAVY ~",
    "aVERY HEAVY EIGHT POINTED BLACK STARaHEAVY EIGHT POINTED PINWHEEL STAR",
    "aLIGHT TWELVE POINTED BLACK ~aHEAVY ~dPINWHEEL ~aCIRCLED TRIANGLEaNEGATIVE CIRCLED TRIANGLE",
    "aCIRCLED SQUAREaNEGATIVE CIRCLED SQUARE@1F7E0aLARGE ORANGE CIRCLEbYELLOW ~bGREEN ~bPURPLE ~",
    "bBROWN ~bRED SQUAREbBLUE ~bORANGE ~bYELLOW ~bGREEN ~bPURPLE ~bBROWN ~@1F7F0aHEAVY EQUALS SIGN",
    "@1F800aLEFTWARDS ARROW WITH SMALL TRIANGLE ARROWHEADaUPWARDS ~aRIGHTWARDS ~aDOWNWARDS ~",
    "aLEFTWARDS ARROW WITH MEDIUM ~aUPWARDS ~aRIGHTWARDS ~aDOWNWARDS ~",
    "aLEFTWARDS ARROW WITH LARGE ~aUPWARDS ~aRIGHTWARDS ~aDOWNWARDS ~",
    "@1F810aLEFTWARDS ARROW WITH SMALL EQUILATERAL ~aUPWARDS ~aRIGHTWARDS ~aDOWNWARDS ~",
    "aLEFTWARDS ARROW WITH EQUILATERAL ARROWHEADaUPWARDS ~aRIGHTWARDS ~aDOWNWARDS ~",
    "aHEAVY LEFTWARDS ARROW WITH EQUILATERAL ARROWHEADbUPWARDS ~bRIGHTWARDS ~bDOWNWARDS ~",
    "bLEFTWARDS ARROW WITH LARGE EQUILATERAL ARROWHEADbUPWARDS ~bRIGHTWARDS ~bDOWNWARDS ~",
    "aLEFTWARDS TRIANGLE-HEADED ARROW WITH NARROW SHAFTaUPWARDS ~aRIGHTWARDS ~aDOWNWARDS ~",
    "aLEFTWARDS TRIANGLE-HEADED ARROW WITH MEDIUM ~aUPWARDS ~aRIGHTWARDS ~aDOWNWARDS ~",
    "aLEFTWARDS TRIANGLE-HEADED ARROW WITH BOLD ~aUPWARDS ~aRIGHTWARDS ~aDOWNWARDS ~",
    "aLEFTWARDS TRIANGLE-HEADED ARROW WITH HEAVY ~aUPWARDS ~aRIGHTWARDS ~aDOWNWARDS ~",
    "aLEFTWARDS TRIANGLE-HEADED ARROW WITH VERY HEAVY SHAFTaUPWARDS ~aRIGHTWARDS ~aDOWNWARDS ~",
    "aLEFTWARDS FINGER-POST ARROWaUPWARDS ~aRIGHTWARDS ~aDOWNWARDS ~aLEFTWARDS SQUARED ARROW",
    "aUPWARDS ~aRIGHTWARDS ~aDOWNWARDS ~aLEFTWARDS COMPRESSED ~aUPWARDS ~aRIGHTWARDS ~aDOWNWARDS ~",
    "aLEFTWARDS HEAVY COMPRESSED ARROWaUPWARDS ~aRIGHTWARDS ~aDOWNWARDS ~aLEFTWARDS HEAVY ARROW",
    "aUPWARDS ~aRIGHTWARDS ~aDOWNWARDS ~@1F850aLEFTWARDS SANS-SERIF ARROWaUPWARDS ~aRIGHTWARDS ~",
    "aDOWNWARDS ~aNORTH WEST SANS-SERIF ARROWbEAST ~aSOUTH ~bWEST ~aLEFT RIGHT ~aUP DOWN ~",
    "@1F860aWIDE-HEADED LEFTWARDS LIGHT BARB ARROWcUPWARDS ~cRIGHTWARDS ~cDOWNWARDS ~",
    "cNORTH WEST LIGHT BARB ARROWdEAST ~cSOUTH ~dWEST ~cLEFTWARDS BARB ARROWcUPWARDS ~",
    "cRIGHTWARDS ~cDOWNWARDS ~cNORTH WEST BARB ARROWdEAST ~cSOUTH ~dWEST ~cLEFTWARDS MEDIUM ~",
    "cUPWARDS ~cRIGHTWARDS ~cDOWNWARDS ~cNORTH WEST MEDIUM BARB ARROWdEAST ~cSOUTH ~dWEST ~",
    "cLEFTWARDS HEAVY BARB ARROWcUPWARDS ~cRIGHTWARDS ~cDOWNWARDS ~cNORTH WEST HEAVY BARB ARROW",
    "dEAST ~cSOUTH ~dWEST ~cLEFTWARDS VERY ~cUPWARDS ~cRIGHTWARDS ~cDOWNWARDS ~",
    "cNORTH WEST VERY HEAVY BARB ARROWdEAST ~cSOUTH ~dWEST ~@1F890aLEFTWARDS TRIANGLE ARROWHEAD",
    "aUPWARDS ~aRIGHTWARDS ~aDOWNWARDS ~aLEFTWARDS WHITE ARROW WITHIN TRIANGLE ARROWHEADaUPWARDS ~",
    "aRIGHTWARDS ~aDOWNWARDS ~aLEFTWARDS ARROW WITH NOTCHED TAILaUPWARDS ~aRIGHTWARDS ~",
    "aDOWNWARDS ~aHEAVY ARROW SHAFT WIDTH ONEeTWO THIRDSeONE HALFfTHIRD",
    "aLEFTWARDS BOTTOM-SHADED WHITE ARROWaRIGHTWARDS BOTTOM ~aLEFTWARDS TOP ~aRIGHTWARDS ~",
    "aLEFTWARDS LEFT-~aRIGHTWARDS RIGHT-~aLEFTWARDS ~aRIGHTWARDS LEFT-~",
    "aLEFTWARDS BACK-TILTED SHADOWED WHITE ARROWaRIGHTWARDS ~aLEFTWARDS FRONT-~aRIGHTWARDS ~",
    "aWHITE ARROW SHAFT WIDTH ONEeTWO THIRDS@1F8B0aARROW POINTING UPWARDS THEN NORTH WEST",
    "cRIGHTWARDS THEN CURVING SOUTH WEST@1F900aCIRCLED CROSS FORMEE WITH FOUR DOTSeTWO ~cFORMEE",
    "aLEFT HALF CIRCLE WITH FOUR DOTSeTHREE ~eTWO ~eDOTcCIRCLEaDOWNWARD FACING HOOKcNOTCHED HOOK",
    "cHOOK WITH DOTcNOTCHED HOOK WITH DOTaPINCHED FINGERSaWHITE HEARTaBROWN ~aPINCHING HAND",
    "aZIPPER-MOUTH FACEaMONEY-~aFACE WITH THERMOMETERaNERD FACEaTHINKING ~aFACE WITH HEAD-BANDAGE",
    "aROBOT FACEaHUGGING ~aSIGN OF THE HORNSaCALL ME HANDaRAISED BACK OF HANDaLEFT-FACING FIST",
    "aRIGHT-~aHANDSHAKEaHAND WITH INDEX AND MIDDLE FINGERS CROSSEDaI LOVE YOU HAND SIGN",
    "aFACE WITH COWBOY HATaCLOWN FACEaNAUSEATED ~aROLLING ON THE FLOOR LAUGHINGaDROOLING FACE",
    "aLYING ~aFACE PALMaSNEEZING FACEaFACE WITH ONE EYEBROW RAISEDaGRINNING FACE WITH STAR EYES",
    "dONE LARGE AND ONE SMALL EYEaFACE WITH FINGER COVERING CLOSED LIPS",
    "aSERIOUS FACE WITH SYMBOLS COVERING MOUTH",
    "aSMILING FACE WITH SMILING EYES AND HAND COVERING MOUTHaFACE WITH OPEN MOUTH VOMITING",
    "aSHOCKED FACE WITH EXPLODING HEADaPREGNANT WOMANaBREAST-FEEDINGaPALMS UP TOGETHERaSELFIE",
    "aPRINCEaMAN IN TUXEDOaMOTHER CHRISTMASaSHRUGaPERSON DOING CARTWHEELaJUGGLINGaFENCER",
    "aMODERN PENTATHLONaWRESTLERSaWATER POLOaHANDBALLaDIVING MASKaWILTED FLOWER",
    "aDRUM WITH DRUMSTICKSaCLINKING GLASSESaTUMBLER GLASSaSPOONaGOAL NETaRIFLEaFIRST PLACE MEDAL",
    "aSECOND ~aTHIRD ~aBOXING GLOVEaMARTIAL ARTS UNIFORMaCURLING STONEaLACROSSE STICK AND BALL",
    "aSOFTBALLaFLYING DISCaCROISSANTaAVOCADOaCUCUMBERaBACONaPOTATOaCARROTaBAGUETTE BREAD",
    "aGREEN SALADaSHALLOW PAN OF FOODaSTUFFED FLATBREADaEGGaGLASS OF MILKaPEANUTSaKIWIFRUIT",
    "aPANCAKESaDUMPLINGaFORTUNE COOKIEaTAKEOUT BOXaCHOPSTICKSaBOWL WITH SPOONaCUP WITH STRAW",
    "aCOCONUTaBROCCOLIaPIEaPRETZELaCUT OF MEATaSANDWICHaCANNED FOODaLEAFY GREENaMANGOaMOON CAKE",
    "aBAGELaSMILING FACE WITH SMILING EYES AND THREE HEARTSaYAWNING FACEaSMILING FACE WITH TEAR",
    "aFACE WITH PARTY HORN AND PARTY HATcUNEVEN EYES AND WAVY MOUTHaOVERHEATED FACEaFREEZING ~",
    "aNINJAaDISGUISED FACEaFACE HOLDING BACK TEARSbWITH PLEADING EYESaSARIaLAB COATaGOGGLES",
    "aHIKING BOOTaFLAT SHOEaCRABaLION FACEaSCORPIONaTURKEYaUNICORN FACEaEAGLEaDUCKaBATaSHARKaOWL",
    "aFOX FACEaBUTTERFLYaDEERaGORILLAaLIZARDaRHINOCEROSaSHRIMPaSQUIDaGIRAFFE FACEaZEBRA ~aHEDGEHOG",
    "aSAUROPODaT-REXaCRICKETaKANGAROOaLLAMAaPEACOCKaHIPPOPOTAMUSaPARROTaRACCOONaLOBSTERaMOSQUITO",
    "aMICROBEaBADGERaSWANaMAMMOTHaDODOaSLOTHaOTTERaORANGUTANaSKUNKaFLAMINGOaOYSTERaBEAVERaBISON",
    "aSEALaGUIDE DOGaPROBING CANEaEMOJI COMPONENT RED HAIRcCURLY ~cBALDcWHITE HAIRaBONEaLEGaFOOT",
    "aTOOTHaSUPERHEROaSUPERVILLAINaSAFETY VESTaEAR WITH HEARING AIDaMOTORIZED WHEELCHAIRaMANUAL ~",
    "aMECHANICAL ARMbLEGaCHEESE WEDGEaCUPCAKEaSALT SHAKERaBEVERAGE BOXaGARLICaONIONaFALAFELaWAFFLE",
    "aBUTTERaMATE DRINKaICE CUBEaBUBBLE TEAaTROLLaSTANDING PERSONaKNEELING ~aDEAF ~",
    "aFACE WITH MONOCLEaADULTaCHILDaOLDER ADULTaBEARDED PERSONaPERSON WITH HEADSCARF",
    "bIN STEAMY ROOMbCLIMBINGbIN LOTUS POSITIONaMAGEaFAIRYaVAMPIREaMERPERSONaELFaGENIEaZOMBIE",
    "aBRAINaORANGE HEARTaBILLED CAPaSCARFaGLOVESaCOATaSOCKSaRED GIFT ENVELOPEaFIRECRACKER",
    "aJIGSAW PUZZLE PIECEaTEST TUBEaPETRI DISHaDNA DOUBLE HELIXaCOMPASSaABACUSaFIRE EXTINGUISHER",
    "aTOOLBOXaBRICKaMAGNETaLUGGAGEaLOTION BOTTLEaSPOOL OF THREADaBALL OF YARNaSAFETY PIN",
    "aTEDDY BEARaBROOMaBASKETaROLL OF PAPERaBAR OF SOAPaSPONGEaRECEIPTaNAZAR AMULET",
    "aNEUTRAL CHESS KINGcQUEENcROOKcBISHOPcKNIGHTcPAWN",
    "aWHITE CHESS KNIGHT ROTATED FORTY-FIVE DEGREESaBLACK ~aNEUTRAL ~",
    "aWHITE CHESS KING ROTATED NINETY DEGREEScQUEEN ~cROOK ~cBISHOP ~cKNIGHT ~cPAWN ~",
    "aBLACK CHESS KING ~cQUEEN ~cROOK ~cBISHOP ~cKNIGHT ~cPAWN ~aNEUTRAL CHESS KING ~cQUEEN ~",
    "cROOK ~cBISHOP ~cKNIGHT ~cPAWN ~aWHITE CHESS KNIGHT ROTATED ONE HUNDRED THIRTY-FIVE DEGREES",
    "aBLACK ~aNEUTRAL ~aWHITE CHESS TURNED KINGdQUEENdROOKdBISHOPdKNIGHTdPAWN",
    "aBLACK CHESS TURNED KINGdQUEENdROOKdBISHOPdKNIGHTdPAWNaNEUTRAL CHESS TURNED KINGdQUEENdROOK",
    "dBISHOPdKNIGHTdPAWNaWHITE CHESS KNIGHT ROTATED TWO HUNDRED TWENTY-FIVE DEGREESaBLACK ~",
    "aNEUTRAL ~aWHITE CHESS KING ROTATED TWO HUNDRED SEVENTY DEGREEScQUEEN ~cROOK ~cBISHOP ~",
    "cKNIGHT ~cPAWN ~aBLACK CHESS KING ~cQUEEN ~cROOK ~cBISHOP ~cKNIGHT ~cPAWN ~",
    "aNEUTRAL CHESS KING ~cQUEEN ~cROOK ~cBISHOP ~cKNIGHT ~cPAWN ~",
    "aWHITE CHESS KNIGHT ROTATED THREE HUNDRED FIFTEEN ~aBLACK ~aNEUTRAL ~aWHITE CHESS EQUIHOPPER",
    "aBLACK ~aNEUTRAL ~aWHITE CHESS EQUIHOPPER ROTATED NINETY DEGREESaBLACK ~aNEUTRAL ~",
    "aWHITE CHESS KNIGHT-QUEENdROOKdBISHOPaBLACK CHESS KNIGHT-QUEENdROOKdBISHOP",
    "@1FA60aXIANGQI RED GENERALcMANDARINcELEPHANTcHORSEcCHARIOTcCANNONcSOLDIERbBLACK GENERAL",
    "cMANDARINcELEPHANTcHORSEcCHARIOTcCANNONcSOLDIER@1FA70aBALLET SHOESaONE-PIECE SWIMSUITaBRIEFS",
    "aSHORTSaTHONG SANDAL@1FA78aDROP OF BLOODaADHESIVE BANDAGEaSTETHOSCOPEaX-RAYaCRUTCH",
    "@1FA80aYO-YOaKITEaPARACHUTEaBOOMERANGaMAGIC WANDaPINATAaNESTING DOLLS@1FA90aRINGED PLANET",
    "aCHAIRaRAZORaAXEaDIYA LAMPaBANJOaMILITARY HELMETaACCORDIONaLONG DRUMaCOINaCARPENTRY SAW",
    "aSCREWDRIVERaLADDERaHOOKaMIRRORaWINDOWaPLUNGERaSEWING NEEDLEaKNOTaBUCKETaMOUSE TRAP",
    "aTOOTHBRUSHaHEADSTONEaPLACARDaROCKaMIRROR BALLaIDENTIFICATION CARDaLOW BATTERYaHAMSA",
    "@1FAB0aFLYaWORMaBEETLEaCOCKROACHaPOTTED PLANTaWOODaFEATHERaLOTUSaCORALaEMPTY NEST",
    "aNEST WITH EGGS@1FAC0aANATOMICAL HEARTaLUNGSaPEOPLE HUGGINGaPREGNANT MANbPERSON",
    "aPERSON WITH CROWN@1FAD0aBLUEBERRIESaBELL PEPPERaOLIVEaFLATBREADaTAMALEaFONDUEaTEAPOT",
    "aPOURING LIQUIDaBEANSaJAR@1FAE0aMELTING FACEaSALUTING ~",
    "aFACE WITH OPEN EYES AND HAND OVER MOUTHcPEEKING EYEcDIAGONAL MOUTHaDOTTED LINE FACE",
    "aBITING LIPaBUBBLES@1FAF0aHAND WITH INDEX FINGER AND THUMB CROSSEDaRIGHTWARDS HAND",
    "aLEFTWARDS ~aPALM DOWN HANDbUP ~aINDEX POINTING AT THE VIEWERaHEART HANDS",
    "@1FB00aBLOCK SEXTANT-1c2c12c3c13c23c123c4c14c24c124c34c134c234c1234c5c15c25c125c35c235c1235",
    "c45c145c245c1245c345c1345c2345c12345c6c16c26c126c36c136c236c1236c46c146c1246c346c1346c2346",
    "c12346c56c156c256c1256c356c1356c2356c12356c456c1456c2456c12456c3456c13456c23456",
    "aLOWER LEFT BLOCK DIAGONAL LOWER MIDDLE LEFT TO LOWER CENTREjRIGHT",
    "eUPPER MIDDLE LEFT TO LOWER CENTREjRIGHTfLEFT TO LOWER CENTRE",
    "bRIGHT BLOCK DIAGONAL UPPER MIDDLE LEFT TO UPPER CENTREjRIGHT",
    "eLOWER MIDDLE LEFT TO UPPER CENTREjRIGHTfLEFT TO UPPER CENTRE",
    "fMIDDLE LEFT TO UPPER MIDDLE RIGHTfCENTRE TO LOWER MIDDLE RIGHTfLEFT ~fCENTRE TO UPPER ~",
    "fLEFT ~fCENTRE TO UPPER RIGHTbLEFT BLOCK DIAGONAL UPPER CENTRE TO UPPER MIDDLE RIGHTfLEFT ~",
    "fCENTRE TO LOWER ~fLEFT ~fCENTRE TO LOWER RIGHTfMIDDLE LEFT TO LOWER MIDDLE RIGHT",
    "aUPPER RIGHT BLOCK DIAGONAL LOWER MIDDLE LEFT TO LOWER CENTREjRIGHT",
    "eUPPER MIDDLE LEFT TO LOWER CENTREjRIGHTfLEFT TO LOWER CENTRE",
    "bLEFT BLOCK DIAGONAL UPPER MIDDLE LEFT TO UPPER CENTREjRIGHT",
    "eLOWER MIDDLE LEFT TO UPPER CENTREjRIGHTfLEFT TO UPPER CENTRE",
    "fMIDDLE LEFT TO UPPER MIDDLE RIGHTfCENTRE TO LOWER MIDDLE RIGHTfLEFT ~fCENTRE TO UPPER ~",
    "fLEFT ~fCENTRE TO UPPER RIGHTbRIGHT BLOCK DIAGONAL UPPER CENTRE TO UPPER MIDDLE RIGHTfLEFT ~",
    "fCENTRE TO LOWER ~fLEFT ~fCENTRE TO LOWER RIGHTfMIDDLE LEFT TO LOWER MIDDLE RIGHT",
    "bAND RIGHT AND LOWER TRIANGULAR THREE QUARTERS BLOCKaLEFT AND LOWER AND RIGHT ~",
    "aUPPER AND LEFT AND LOWER ~aLEFT AND UPPER AND RIGHT ~bTRIANGULAR ONE QUARTER BLOCKaUPPER ~",
    "aRIGHT ~aLOWER ~aVERTICAL ONE EIGHTH BLOCK-2e3e4e5e6e7aHORIZONTAL ONE EIGHTH BLOCK-2e3e4e5e6",
    "e7aLEFT AND LOWER ONE EIGHTH BLOCKcUPPER ~aRIGHT ~cLOWER ~aUPPER ~",
    "aHORIZONTAL ONE EIGHTH BLOCK-1358aUPPER ONE QUARTER BLOCKbTHREE EIGHTHS ~bFIVE ~",
    "bTHREE QUARTERS ~bSEVEN EIGHTHS ~aRIGHT ONE QUARTER ~bTHREE EIGHTHS ~bFIVE ~bTHREE QUARTERS ~",
    "bSEVEN EIGHTHS ~aLEFT HALF MEDIUM SHADEaRIGHT ~aUPPER ~aLOWER ~aINVERSE MEDIUM SHADE",
    "aUPPER HALF BLOCK AND LOWER HALF INVERSE MEDIUM SHADE",
    "cINVERSE MEDIUM SHADE AND LOWER HALF BLOCK@1FB94aLEFT HALF INVERSE MEDIUM SHADE AND RIGHT ~",
    "aCHECKER BOARD FILLaINVERSE CHECKER BOARD FILLaHEAVY HORIZONTAL FILL",
    "aUPPER LEFT TO LOWER RIGHT FILLbRIGHT TO LOWER LEFT ~bAND LOWER TRIANGULAR HALF BLOCK",
    "aLEFT AND RIGHT ~aUPPER LEFT TRIANGULAR MEDIUM SHADEbRIGHT ~aLOWER ~bLEFT ~",
    "aBOX DRAWINGS LIGHT DIAGONAL UPPER CENTRE TO MIDDLE LEFTiRIGHTeMIDDLE LEFT TO LOWER CENTRE",
    "fRIGHT ~eUPPER CENTRE TO MIDDLE LEFT TO LOWER CENTREiRIGHT ~",
    "eMIDDLE LEFT TO LOWER CENTRE TO MIDDLE RIGHThUPPER ~",
    "eUPPER CENTRE TO MIDDLE LEFT AND MIDDLE RIGHT TO LOWER CENTREiRIGHT AND MIDDLE LEFT ~",
    "jTO LOWER CENTRE TO MIDDLE LEFTiLEFT TO LOWER CENTRE TO MIDDLE RIGHT",
    "eMIDDLE LEFT TO UPPER CENTRE TO MIDDLE RIGHT TO LOWER CENTRE",
    "fRIGHT TO UPPER CENTRE TO MIDDLE LEFT ~eDIAMONDdHORIZONTAL WITH VERTICAL STROKE",
    "aARROWHEAD-SHAPED POINTERaINVERSE CHECK MARKaLEFT HALF RUNNING MANaRIGHT ~",
    "aINVERSE DOWNWARDS ARROW WITH TIP LEFTWARDS",
    "aLEFTWARDS ARROW AND UPPER AND LOWER ONE EIGHTH BLOCKaRIGHTWARDS ~",
    "aDOWNWARDS ARROW AND RIGHT ONE EIGHTH BLOCKaUPWARDS ~aLEFT HALF FOLDERaRIGHT ~",
    "aVOIDED GREEK CROSSaRIGHT OPEN SQUARED DOTaNEGATIVE DIAGONAL CROSS",
    "cMIDDLE RIGHT TO LOWER CENTREcDIAMONDaWHITE HEAVY SALTIRE WITH ROUNDED CORNERS",
    "aLEFT THIRD WHITE RIGHT POINTING INDEXaMIDDLE ~aRIGHT ~aNEGATIVE SQUARED QUESTION MARK",
    "aSTICK FIGUREbFIGURE WITH ARMS RAISEDcLEANING LEFTdRIGHTcWITH DRESSaWHITE UP-POINTING CHEVRON",
    "@1FBF0aSEGMENTED DIGIT ZEROcONEcTWOcTHREEcFOURcFIVEcSIXcSEVENcEIGHTcNINE@E0001aLANGUAGE TAG",
    "@E0020aTAG SPACEbEXCLAMATION MARKbQUOTATION ~bNUMBER SIGNbDOLLAR ~bPERCENT ~bAMPERSAND",
    "bAPOSTROPHEbLEFT PARENTHESISbRIGHT ~bASTERISKbPLUS SIGNbCOMMAbHYPHEN-MINUSbFULL STOPbSOLIDUS",
    "bDIGIT ZEROcONEcTWOcTHREEcFOURcFIVEcSIXcSEVENcEIGHTcNINEbCOLONbSEMICOLONbLESS-THAN SIGN",
    "bEQUALS SIGNbGREATER-THAN SIGNbQUESTION MARKbCOMMERCIAL ATbLATIN CAPITAL LETTER AeBeCeDeEeFeG",
    "eHeIeJeKeLeMeNeOePeQeReSeTeUeVeWeXeYeZbLEFT SQUARE BRACKETbREVERSE SOLIDUS",
    "bRIGHT SQUARE BRACKETbCIRCUMFLEX ACCENTbLOW LINEbGRAVE ACCENTbLATIN SMALL LETTER AeBeCeDeEeF",
    "eGeHeIeJeKeLeMeNeOePeQeReSeTeUeVeWeXeYeZbLEFT CURLY BRACKETbVERTICAL LINEbRIGHT CURLY BRACKET",
    "bTILDEaCANCEL TAG@E0100aVARIATION SELECTOR-17c18c19c20c21c22c23c24c25c26c27c28c29c30c31c32c33",
    "c34c35c36c37c38c39c40c41c42c43c44c45c46c47c48c49c50c51c52c53c54c55c56c57c58c59c60c61c62c63c64",
    "c65c66c67c68c69c70c71c72c73c74c75c76c77c78c79c80c81c82c83c84c85c86c87c88c89c90c91c92c93c94c95",
    "c96c97c98c99c100c101c102c103c104c105c106c107c108c109c110c111c112c113c114c115c116c117c118c119",
    "c120c121c122c123c124c125c126c127c128c129c130c131c132c133c134c135c136c137c138c139c140c141c142",
    "c143c144c145c146c147c148c149c150c151c152c153c154c155c156c157c158c159c160c161c162c163c164c165",
    "c166c167c168c169c170c171c172c173c174c175c176c177c178c179c180c181c182c183c184c185c186c187c188",
    "c189c190c191c192c193c194c195c196c197c198c199c200c201c202c203c204c205c206c207c208c209c210c211",
    "c212c213c214c215c216c217c218c219c220c221c222c223c224c225c226c227c228c229c230c231c232c233c234",
    "c235c236c237c238c239c240c241c242c243c244c245c246c247c248c249c250c251c252c253c254c255c256"]

end JsonExpr.Text.CharacterName
