/-!
The names of the characters from 2500 to 4DFF.
-/

namespace JsonExpr.Text.CharacterName

def from2500 : List String :=
  ["@2500aBOX DRAWINGS LIGHT HORIZONTALcHEAVY ~cLIGHT VERTICALcHEAVY ~",
    "cLIGHT TRIPLE DASH HORIZONTALcHEAVY ~cLIGHT TRIPLE DASH VERTICALcHEAVY ~",
    "cLIGHT QUADRUPLE DASH HORIZONTALcHEAVY ~cLIGHT QUADRUPLE DASH VERTICALcHEAVY ~",
    "cLIGHT DOWN AND RIGHTcDOWN LIGHT AND RIGHT HEAVYdHEAVY AND RIGHT LIGHTcHEAVY DOWN AND RIGHT",
    "cLIGHT DOWN AND LEFTcDOWN LIGHT AND LEFT HEAVYdHEAVY AND LEFT LIGHTcHEAVY DOWN AND LEFT",
    "cLIGHT UP AND RIGHTcUP LIGHT AND RIGHT HEAVYdHEAVY AND RIGHT LIGHTcHEAVY UP AND RIGHT",
    "cLIGHT UP AND LEFTcUP LIGHT AND LEFT HEAVYdHEAVY AND LEFT LIGHTcHEAVY UP AND LEFT",
    "cLIGHT VERTICAL AND RIGHTcVERTICAL LIGHT AND RIGHT HEAVYcUP HEAVY AND RIGHT DOWN LIGHT",
    "cDOWN HEAVY AND RIGHT UP ~cVERTICAL HEAVY AND RIGHT LIGHTcDOWN LIGHT AND RIGHT UP HEAVY",
    "cUP LIGHT AND RIGHT DOWN ~cHEAVY VERTICAL AND RIGHTcLIGHT VERTICAL AND LEFT",
    "cVERTICAL LIGHT AND LEFT HEAVYcUP HEAVY AND LEFT DOWN LIGHTcDOWN HEAVY AND LEFT UP ~",
    "cVERTICAL HEAVY AND LEFT LIGHTcDOWN LIGHT AND LEFT UP HEAVYcUP LIGHT AND LEFT DOWN ~",
    "cHEAVY VERTICAL AND LEFTcLIGHT DOWN AND HORIZONTALcLEFT HEAVY AND RIGHT DOWN LIGHT",
    "cRIGHT HEAVY AND LEFT ~cDOWN LIGHT AND HORIZONTAL HEAVYdHEAVY AND HORIZONTAL LIGHT",
    "cRIGHT LIGHT AND LEFT DOWN HEAVYcLEFT LIGHT AND RIGHT ~cHEAVY DOWN AND HORIZONTALcLIGHT UP ~",
    "cLEFT HEAVY AND RIGHT UP LIGHTcRIGHT HEAVY AND LEFT ~cUP LIGHT AND HORIZONTAL HEAVY",
    "dHEAVY AND HORIZONTAL LIGHTcRIGHT LIGHT AND LEFT UP HEAVYcLEFT LIGHT AND RIGHT ~",
    "cHEAVY UP AND HORIZONTALcLIGHT VERTICAL ~cLEFT HEAVY AND RIGHT VERTICAL LIGHT",
    "cRIGHT HEAVY AND LEFT ~cVERTICAL LIGHT AND HORIZONTAL HEAVY",
    "cUP HEAVY AND DOWN HORIZONTAL LIGHTcDOWN HEAVY AND UP ~cVERTICAL HEAVY AND HORIZONTAL LIGHT",
    "cLEFT UP HEAVY AND RIGHT DOWN LIGHTcRIGHT UP HEAVY AND LEFT ~cLEFT DOWN HEAVY AND RIGHT UP ~",
    "cRIGHT DOWN HEAVY AND LEFT ~cDOWN LIGHT AND UP HORIZONTAL HEAVYcUP LIGHT AND DOWN ~",
    "cRIGHT LIGHT AND LEFT VERTICAL ~cLEFT LIGHT AND RIGHT ~cHEAVY VERTICAL AND HORIZONTAL",
    "cLIGHT DOUBLE DASH ~cHEAVY ~cLIGHT DOUBLE DASH VERTICALcHEAVY ~cDOUBLE HORIZONTALdVERTICAL",
    "cDOWN SINGLE AND RIGHT DOUBLEdDOUBLE AND RIGHT SINGLEcDOUBLE DOWN AND RIGHT",
    "cDOWN SINGLE AND LEFT DOUBLEdDOUBLE AND LEFT SINGLEcDOUBLE DOWN AND LEFT",
    "cUP SINGLE AND RIGHT DOUBLEdDOUBLE AND RIGHT SINGLEcDOUBLE UP AND RIGHT",
    "cUP SINGLE AND LEFT DOUBLEdDOUBLE AND LEFT SINGLEcDOUBLE UP AND LEFT",
    "cVERTICAL SINGLE AND RIGHT DOUBLEdDOUBLE AND RIGHT SINGLEcDOUBLE VERTICAL AND RIGHT",
    "cVERTICAL SINGLE AND LEFT DOUBLEdDOUBLE AND LEFT SINGLEcDOUBLE VERTICAL AND LEFT",
    "cDOWN SINGLE AND HORIZONTAL DOUBLEdDOUBLE AND HORIZONTAL SINGLEcDOUBLE DOWN AND HORIZONTAL",
    "cUP SINGLE AND HORIZONTAL DOUBLEdDOUBLE AND HORIZONTAL SINGLEcDOUBLE UP AND HORIZONTAL",
    "cVERTICAL SINGLE AND HORIZONTAL DOUBLEdDOUBLE AND HORIZONTAL SINGLE",
    "cDOUBLE VERTICAL AND HORIZONTALcLIGHT ARC DOWN AND RIGHTgLEFTeUP ~gRIGHT",
    "dDIAGONAL UPPER RIGHT TO LOWER LEFTfLEFT TO LOWER RIGHTeCROSSdLEFTdUPdRIGHTdDOWNcHEAVY LEFT",
    "dUPdRIGHTdDOWNcLIGHT LEFT AND HEAVY RIGHTdUP AND HEAVY DOWNcHEAVY LEFT AND LIGHT RIGHT",
    "dUP AND LIGHT DOWNaUPPER HALF BLOCKaLOWER ONE EIGHTH BLOCKcQUARTER ~bTHREE EIGHTHS ~",
    "bHALF BLOCKbFIVE EIGHTHS BLOCKbTHREE QUARTERS ~bSEVEN EIGHTHS ~aFULL BLOCK",
    "aLEFT SEVEN EIGHTHS BLOCKbTHREE QUARTERS ~bFIVE EIGHTHS ~bHALF BLOCKbTHREE EIGHTHS BLOCK",
    "bONE QUARTER ~cEIGHTH ~aRIGHT HALF BLOCKaLIGHT SHADEaMEDIUM ~aDARK ~aUPPER ONE EIGHTH BLOCK",
    "aRIGHT ~aQUADRANT LOWER LEFTcRIGHTbUPPER LEFTcLEFT AND LOWER LEFT AND LOWER RIGHTfRIGHT",
    "eUPPER RIGHT AND LOWER LEFTiRIGHTcRIGHTcRIGHT AND LOWER LEFTfLEFT AND LOWER RIGHT",
    "aBLACK SQUAREaWHITE ~bSQUARE WITH ROUNDED CORNERScCONTAINING BLACK SMALL SQUARE",
    "aSQUARE WITH HORIZONTAL FILLcVERTICAL ~cORTHOGONAL CROSSHATCH FILL",
    "cUPPER LEFT TO LOWER RIGHT FILLdRIGHT TO LOWER LEFT ~cDIAGONAL CROSSHATCH FILL",
    "aBLACK SMALL SQUAREaWHITE ~aBLACK RECTANGLEaWHITE ~aBLACK VERTICAL RECTANGLEaWHITE ~",
    "aBLACK PARALLELOGRAMaWHITE ~aBLACK UP-POINTING TRIANGLEaWHITE ~",
    "aBLACK UP-POINTING SMALL TRIANGLEaWHITE ~aBLACK RIGHT-POINTING TRIANGLEaWHITE ~",
    "aBLACK RIGHT-POINTING SMALL TRIANGLEaWHITE ~aBLACK RIGHT-POINTING POINTERaWHITE ~",
    "aBLACK DOWN-POINTING TRIANGLEaWHITE ~aBLACK DOWN-POINTING SMALL TRIANGLEaWHITE ~",
    "aBLACK LEFT-POINTING TRIANGLEaWHITE ~aBLACK LEFT-POINTING SMALL TRIANGLEaWHITE ~",
    "aBLACK LEFT-POINTING POINTERaWHITE ~aBLACK DIAMONDaWHITE ~",
    "bDIAMOND CONTAINING BLACK SMALL DIAMONDaFISHEYEaLOZENGEaWHITE CIRCLEaDOTTED ~",
    "aCIRCLE WITH VERTICAL FILLaBULLSEYEaBLACK CIRCLEaCIRCLE WITH LEFT HALF BLACKcRIGHT ~cLOWER ~",
    "cUPPER ~dRIGHT QUADRANT BLACKcALL BUT UPPER LEFT QUADRANT BLACKaLEFT HALF BLACK CIRCLE",
    "aRIGHT ~aINVERSE BULLETbWHITE CIRCLEaUPPER HALF INVERSE WHITE CIRCLEaLOWER ~",
    "aUPPER LEFT QUADRANT CIRCULAR ARCbRIGHT ~aLOWER ~bLEFT ~aUPPER HALF CIRCLEaLOWER ~",
    "aBLACK LOWER RIGHT TRIANGLEcLEFT ~bUPPER ~cRIGHT ~aWHITE BULLETaSQUARE WITH LEFT HALF BLACK",
    "cRIGHT ~cUPPER LEFT DIAGONAL HALF BLACKcLOWER RIGHT ~",
    "aWHITE SQUARE WITH VERTICAL BISECTING LINEbUP-POINTING TRIANGLE WITH DOT",
    "aUP-POINTING TRIANGLE WITH LEFT HALF BLACKeRIGHT ~aLARGE CIRCLE",
    "aWHITE SQUARE WITH UPPER LEFT QUADRANTdLOWER ~eRIGHT ~dUPPER ~bCIRCLE WITH UPPER LEFT ~",
    "dLOWER ~eRIGHT ~dUPPER ~aUPPER LEFT TRIANGLEbRIGHT ~aLOWER LEFT ~aWHITE MEDIUM SQUAREaBLACK ~",
    "aWHITE MEDIUM SMALL SQUAREaBLACK ~aLOWER RIGHT TRIANGLEaBLACK SUN WITH RAYSaCLOUDaUMBRELLA",
    "aSNOWMANaCOMETaBLACK STARaWHITE ~aLIGHTNINGaTHUNDERSTORMaSUNaASCENDING NODEaDESCENDING ~",
    "aCONJUNCTIONaOPPOSITIONaBLACK TELEPHONEaWHITE ~aBALLOT BOXbBOX WITH CHECKdXaSALTIRE",
    "aUMBRELLA WITH RAIN DROPSaHOT BEVERAGEaWHITE SHOGI PIECEaBLACK ~aSHAMROCK",
    "aREVERSED ROTATED FLORAL HEART BULLETaBLACK LEFT POINTING INDEXbRIGHT ~aWHITE LEFT ~bUP ~",
    "bRIGHT ~bDOWN ~aSKULL AND CROSSBONESaCAUTION SIGNaRADIOACTIVE ~aBIOHAZARD ~aCADUCEUSaANKH",
    "aORTHODOX CROSSaCHI RHOaCROSS OF LORRAINEcJERUSALEMaSTAR AND CRESCENTaFARSI SYMBOLaADI SHAKTI",
    "aHAMMER AND SICKLEaPEACE SYMBOLaYIN YANGaTRIGRAM FOR HEAVENcLAKEcFIREcTHUNDERcWINDcWATER",
    "cMOUNTAINcEARTHaWHEEL OF DHARMAaWHITE FROWNING FACEbSMILING ~aBLACK ~aWHITE SUN WITH RAYS",
    "aFIRST QUARTER MOONaLAST ~aMERCURYaFEMALE SIGNaEARTHaMALE SIGNaJUPITERaSATURNaURANUSaNEPTUNE",
    "aPLUTOaARIESaTAURUSaGEMINIaCANCERaLEOaVIRGOaLIBRAaSCORPIUSaSAGITTARIUSaCAPRICORNaAQUARIUS",
    "aPISCESaWHITE CHESS KINGcQUEENcROOKcBISHOPcKNIGHTcPAWNaBLACK CHESS KINGcQUEENcROOKcBISHOP",
    "cKNIGHTcPAWNbSPADE SUITaWHITE HEART ~bDIAMOND ~aBLACK CLUB ~aWHITE SPADE ~aBLACK HEART ~",
    "bDIAMOND ~aWHITE CLUB ~aHOT SPRINGSaQUARTER NOTEaEIGHTH ~aBEAMED EIGHTH NOTESbSIXTEENTH ~",
    "aMUSIC FLAT SIGNbNATURAL ~bSHARP ~aWEST SYRIAC CROSSaEAST ~aUNIVERSAL RECYCLING SYMBOL",
    "aRECYCLING SYMBOL FOR TYPE-1 PLASTICSe2 ~e3 ~e4 ~e5 ~e6 ~e7 ~dGENERIC MATERIALS",
    "aBLACK UNIVERSAL RECYCLING SYMBOLaRECYCLED PAPER SYMBOLaPARTIALLY-RECYCLED PAPER SYMBOL",
    "aPERMANENT PAPER SIGNaWHEELCHAIR SYMBOLaDIE FACE-1c2c3c4c5c6aWHITE CIRCLE WITH DOT RIGHT",
    "dTWO DOTSaBLACK CIRCLE WITH WHITE DOT RIGHTdTWO WHITE DOTSaMONOGRAM FOR YANGcYIN",
    "aDIGRAM FOR GREATER YANGcLESSER YINdYANGcGREATER YINaWHITE FLAGaBLACK ~aHAMMER AND PICK",
    "aANCHORaCROSSED SWORDSaSTAFF OF AESCULAPIUSaSCALESaALEMBICaFLOWERaGEARaSTAFF OF HERMES",
    "aATOM SYMBOLaFLEUR-DE-LISaOUTLINED WHITE STARaTHREE LINES CONVERGING RIGHTdLEFTaWARNING SIGN",
    "aHIGH VOLTAGE SIGNaDOUBLED FEMALE ~bMALE ~aINTERLOCKED FEMALE AND MALE SIGN",
    "aMALE AND FEMALE SIGNbWITH STROKE ~dAND MALE AND FEMALE SIGNaVERTICAL MALE WITH STROKE SIGN",
    "aHORIZONTAL ~aMEDIUM WHITE CIRCLEbBLACK ~bSMALL WHITE CIRCLEaMARRIAGE SYMBOLaDIVORCE ~",
    "aUNMARRIED PARTNERSHIP SYMBOLaCOFFINaFUNERAL URNaNEUTERaCERESaPALLASaJUNOaVESTAaCHIRON",
    "aBLACK MOON LILITHaSEXTILEaSEMISEXTILEaQUINCUNXaSESQUIQUADRATEaSOCCER BALLaBASEBALL",
    "aSQUARED KEYaWHITE DRAUGHTS MANcKINGaBLACK DRAUGHTS MANcKINGaSNOWMAN WITHOUT SNOW",
    "aSUN BEHIND CLOUDaRAINaBLACK SNOWMANaTHUNDER CLOUD AND RAINaTURNED WHITE SHOGI PIECEbBLACK ~",
    "aWHITE DIAMOND IN SQUAREaCROSSING LANESaDISABLED CARaOPHIUCHUSaPICKaCAR SLIDING",
    "aHELMET WITH WHITE CROSSaCIRCLED CROSSING LANESaCHAINSaNO ENTRY",
    "aALTERNATE ONE-WAY LEFT WAY TRAFFICaBLACK TWO-~aWHITE ~aBLACK LEFT LANE MERGEaWHITE ~",
    "aDRIVE SLOW SIGNaHEAVY WHITE DOWN-POINTING TRIANGLEaLEFT CLOSED ENTRYaSQUARED SALTIRE",
    "aFALLING DIAGONAL IN WHITE CIRCLE IN BLACK SQUAREaBLACK TRUCKaRESTRICTED LEFT ENTRY-1d2",
    "aASTRONOMICAL SYMBOL FOR URANUSaHEAVY CIRCLE WITH STROKE AND TWO DOTS ABOVEaPENTAGRAM",
    "aRIGHT-HANDED INTERLACED PENTAGRAMaLEFT-~aINVERTED PENTAGRAMaBLACK CROSS ON SHIELD",
    "aSHINTO SHRINEaCHURCHaCASTLEaHISTORIC SITEaGEAR WITHOUT HUBbWITH HANDLES",
    "aMAP SYMBOL FOR LIGHTHOUSEaMOUNTAINaUMBRELLA ON GROUNDaFOUNTAINaFLAG IN HOLEaFERRYaSAILBOAT",
    "aSQUARE FOUR CORNERSaSKIERaICE SKATEaPERSON WITH BALLaTENTaJAPANESE BANK SYMBOL",
    "aHEADSTONE GRAVEYARD ~aFUEL PUMPaCUP ON BLACK SQUARE",
    "aWHITE FLAG WITH HORIZONTAL MIDDLE BLACK STRIPEaBLACK SAFETY SCISSORSaUPPER BLADE ~",
    "aBLACK SCISSORSaLOWER BLADE SCISSORSaWHITE SCISSORSbHEAVY CHECK MARKaTELEPHONE LOCATION SIGN",
    "aTAPE DRIVEaAIRPLANEaENVELOPEaRAISED FISTbHANDaVICTORY ~aWRITING ~aLOWER RIGHT PENCILaPENCIL",
    "aUPPER RIGHT PENCILaWHITE NIBaBLACK ~aCHECK MARKaHEAVY CHECK MARKaMULTIPLICATION X",
    "aHEAVY MULTIPLICATION XaBALLOT XaHEAVY BALLOT XaOUTLINED GREEK CROSSaHEAVY ~aOPEN CENTRE ~",
    "aHEAVY OPEN CENTRE CROSSaLATIN CROSSaSHADOWED WHITE LATIN CROSSaOUTLINED LATIN CROSS",
    "aMALTESE CROSSaSTAR OF DAVIDaFOUR TEARDROP-SPOKED ASTERISKbBALLOON-~",
    "aHEAVY FOUR BALLOON-SPOKED ASTERISKaFOUR CLUB-SPOKED ASTERISKaBLACK FOUR POINTED STARaWHITE ~",
    "aSPARKLESaSTRESS OUTLINED WHITE STARaCIRCLED WHITE STARaOPEN CENTRE BLACK STAR",
    "aBLACK CENTRE WHITE ~aOUTLINED BLACK STARaHEAVY OUTLINED BLACK STARaPINWHEEL STAR",
    "aSHADOWED WHITE STARaHEAVY ASTERISKaOPEN CENTRE ASTERISKaEIGHT SPOKED ~bPOINTED BLACK STAR",
    "cPINWHEEL ~aSIX POINTED BLACK ~aEIGHT POINTED RECTILINEAR BLACK STAR",
    "aHEAVY EIGHT POINTED RECTILINEAR BLACK STARaTWELVE POINTED BLACK STAR",
    "aSIXTEEN POINTED ASTERISKaTEARDROP-SPOKED ~aOPEN CENTRE TEARDROP-SPOKED ASTERISK",
    "aHEAVY TEARDROP-SPOKED ASTERISKaSIX PETALLED BLACK AND WHITE FLORETTEaBLACK FLORETTEaWHITE ~",
    "aEIGHT PETALLED OUTLINED BLACK FLORETTEaCIRCLED OPEN CENTRE EIGHT POINTED STAR",
    "aHEAVY TEARDROP-SPOKED PINWHEEL ASTERISKaSNOWFLAKEaTIGHT TRIFOLIATE SNOWFLAKEaHEAVY CHEVRON ~",
    "aSPARKLEaHEAVY SPARKLEaBALLOON-SPOKED ASTERISKaEIGHT TEARDROP-SPOKED PROPELLER ASTERISK",
    "aHEAVY EIGHT TEARDROP-SPOKED PROPELLER ASTERISKaCROSS MARKaSHADOWED WHITE CIRCLE",
    "aNEGATIVE SQUARED CROSS MARKaLOWER RIGHT DROP-SHADOWED WHITE SQUAREaUPPER ~",
    "aLOWER RIGHT SHADOWED WHITE SQUAREaUPPER ~aBLACK QUESTION MARK ORNAMENTaWHITE ~bEXCLAMATION ~",
    "aBLACK DIAMOND MINUS WHITE XaHEAVY EXCLAMATION MARK SYMBOLaLIGHT VERTICAL BARaMEDIUM ~",
    "aHEAVY ~bSINGLE TURNED COMMA QUOTATION MARK ORNAMENTcCOMMA QUOTATION MARK ORNAMENT",
    "bDOUBLE TURNED COMMA QUOTATION MARK ORNAMENTcCOMMA QUOTATION MARK ORNAMENT",
    "bLOW SINGLE COMMA QUOTATION MARK ORNAMENTcDOUBLE ~aCURVED STEM PARAGRAPH SIGN ORNAMENT",
    "aHEAVY EXCLAMATION MARK ORNAMENTbHEART EXCLAMATION MARK ORNAMENTbBLACK HEART",
    "aROTATED HEAVY BLACK HEART BULLETaFLORAL HEARTaROTATED FLORAL HEART BULLET",
    "aMEDIUM LEFT PARENTHESIS ORNAMENTbRIGHT ~bFLATTENED LEFT PARENTHESIS ORNAMENTcRIGHT ~",
    "bLEFT-POINTING ANGLE BRACKET ORNAMENTbRIGHT-~",
    "aHEAVY LEFT-POINTING ANGLE QUOTATION MARK ORNAMENTbRIGHT-~",
    "bLEFT-POINTING ANGLE BRACKET ORNAMENTbRIGHT-~aLIGHT LEFT TORTOISE SHELL ~bRIGHT ~",
    "aMEDIUM LEFT CURLY BRACKET ORNAMENTbRIGHT ~aDINGBAT NEGATIVE CIRCLED DIGIT ONEeTWOeTHREEeFOUR",
    "eFIVEeSIXeSEVENeEIGHTeNINEdNUMBER TENbCIRCLED SANS-SERIF DIGIT ONEfTWOfTHREEfFOURfFIVEfSIX",
    "fSEVENfEIGHTfNINEeNUMBER TENbNEGATIVE CIRCLED SANS-SERIF DIGIT ONEgTWOgTHREEgFOURgFIVEgSIX",
    "gSEVENgEIGHTgNINEfNUMBER TENaHEAVY WIDE-HEADED RIGHTWARDS ARROWbPLUS SIGNbMINUS ~bDIVISION ~",
    "bSOUTH EAST ARROWbRIGHTWARDS ARROWbNORTH EAST ARROWaDRAFTING POINT RIGHTWARDS ~",
    "aHEAVY ROUND-TIPPED RIGHTWARDS ARROWaTRIANGLE-HEADED RIGHTWARDS ARROW",
    "aHEAVY TRIANGLE-HEADED RIGHTWARDS ARROWaDASHED ~",
    "aHEAVY DASHED TRIANGLE-HEADED RIGHTWARDS ARROWaBLACK RIGHTWARDS ARROW",
    "aTHREE-D TOP-LIGHTED RIGHTWARDS ARROWHEADcBOTTOM-~aBLACK RIGHTWARDS ARROWHEAD",
    "aHEAVY BLACK CURVED DOWNWARDS AND RIGHTWARDS ARROWdUPWARDS ~aSQUAT BLACK RIGHTWARDS ARROW",
    "aHEAVY CONCAVE-POINTED BLACK RIGHTWARDS ARROWaRIGHT-SHADED WHITE RIGHTWARDS ARROWaLEFT-~",
    "aBACK-TILTED SHADOWED WHITE RIGHTWARDS ARROWaFRONT-~",
    "aHEAVY LOWER RIGHT-SHADOWED WHITE RIGHTWARDS ARROWbUPPER ~aNOTCHED LOWER ~aCURLY LOOP",
    "aNOTCHED UPPER RIGHT-SHADOWED WHITE RIGHTWARDS ARROWaCIRCLED HEAVY WHITE RIGHTWARDS ARROW",
    "aWHITE-FEATHERED RIGHTWARDS ARROWaBLACK-FEATHERED SOUTH EAST ARROWcRIGHTWARDS ARROW",
    "cNORTH EAST ARROWaHEAVY BLACK-FEATHERED SOUTH EAST ARROWdRIGHTWARDS ARROWdNORTH EAST ARROW",
    "aTEARDROP-BARBED RIGHTWARDS ARROWaHEAVY TEARDROP-SHANKED RIGHTWARDS ARROW",
    "aWEDGE-TAILED RIGHTWARDS ARROWaHEAVY WEDGE-TAILED RIGHTWARDS ARROW",
    "aOPEN-OUTLINED RIGHTWARDS ARROWaDOUBLE CURLY LOOPaTHREE DIMENSIONAL ANGLE",
    "aWHITE TRIANGLE CONTAINING SMALL WHITE TRIANGLEaPERPENDICULARaOPEN SUBSETbSUPERSET",
    "aLEFT S-SHAPED BAG DELIMITERaRIGHT ~aOR WITH DOT INSIDEaREVERSE SOLIDUS PRECEDING SUBSET",
    "aSUPERSET PRECEDING SOLIDUSaVERTICAL BAR WITH HORIZONTAL STROKEaMATHEMATICAL RISING DIAGONAL",
    "aLONG DIVISIONaMATHEMATICAL FALLING DIAGONALaSQUARED LOGICAL ANDcOR",
    "aWHITE DIAMOND WITH CENTRED DOTaAND WITH DOTaELEMENT OF OPENING UPWARDS",
    "aLOWER RIGHT CORNER WITH DOTaUPPER LEFT ~aLEFT OUTER JOINaRIGHT ~aFULL ~aLARGE UP TACKbDOWN ~",
    "aLEFT AND RIGHT DOUBLE TURNSTILEdTACKbMULTIMAPaLONG RIGHT TACKbLEFT ~",
    "aUP TACK WITH CIRCLE ABOVEaLOZENGE DIVIDED BY HORIZONTAL RULEaWHITE CONCAVE-SIDED DIAMOND",
    "dDIAMOND WITH LEFTWARDS TICKfRIGHTWARDS ~bSQUARE WITH LEFTWARDS TICKdRIGHTWARDS ~",
    "aMATHEMATICAL LEFT WHITE SQUARE BRACKETbRIGHT ~bLEFT ANGLE BRACKETbRIGHT ~",
    "bLEFT DOUBLE ANGLE BRACKETbRIGHT ~bLEFT WHITE TORTOISE SHELL BRACKETbRIGHT ~",
    "bLEFT FLATTENED PARENTHESISbRIGHT ~aUPWARDS QUADRUPLE ARROWaDOWNWARDS ~",
    "aANTICLOCKWISE GAPPED CIRCLE ARROWaCLOCKWISE ~aRIGHT ARROW WITH CIRCLED PLUS",
    "aLONG LEFTWARDS ARROWbRIGHTWARDS ~bLEFT RIGHT ARROWbLEFTWARDS DOUBLE ~bRIGHTWARDS ~",
    "bLEFT RIGHT DOUBLE ARROWbLEFTWARDS ARROW FROM BARbRIGHTWARDS ~",
    "bLEFTWARDS DOUBLE ARROW FROM BARbRIGHTWARDS ~cSQUIGGLE ARROWaBRAILLE PATTERN BLANKcDOTS-1d2",
    "d12d3d13d23d123d4d14d24d124d34d134d234d1234d5d15d25d125d35d135d235d1235d45d145d245d1245d345",
    "d1345d2345d12345d6d16d26d126d36d136d236d1236d46d146d246d1246d346d1346d2346d12346d56d156d256",
    "d1256d356d1356d2356d12356d456d1456d2456d12456d3456d13456d23456d123456d7d17d27d127d37d137d237",
    "d1237d47d147d247d1247d347d1347d2347d12347d57d157d257d1257d357d1357d2357d12357d457d1457d2457",
    "d12457d3457d13457d23457d123457d67d167d267d1267d367d1367d2367d12367d467d1467d2467d12467d3467",
    "d13467d23467d123467d567d1567d2567d12567d3567d13567d23567d123567d4567d14567d24567d124567d34567",
    "d134567d234567d1234567d8d18d28d128d38d138d238d1238d48d148d248d1248d348d1348d2348d12348d58d158",
    "d258d1258d358d1358d2358d12358d458d1458d2458d12458d3458d13458d23458d123458d68d168d268d1268d368",
    "d1368d2368d12368d468d1468d2468d12468d3468d13468d23468d123468d568d1568d2568d12568d3568d13568",
    "d23568d123568d4568d14568d24568d124568d34568d134568d234568d1234568d78d178d278d1278d378d1378",
    "d2378d12378d478d1478d2478d12478d3478d13478d23478d123478d578d1578d2578d12578d3578d13578d23578",
    "d123578d4578d14578d24578d124578d34578d134578d234578d1234578d678d1678d2678d12678d3678d13678",
    "d23678d123678d4678d14678d24678d124678d34678d134678d234678d1234678d5678d15678d25678d125678",
    "d35678d135678d235678d1235678d45678d145678d245678d1245678d345678d1345678d2345678d12345678",
    "aRIGHTWARDS TWO-HEADED ARROW WITH VERTICAL STROKEfDOUBLE VERTICAL STROKE",
    "aLEFTWARDS DOUBLE ARROW WITH VERTICAL STROKEaRIGHTWARDS ~",
    "aLEFT RIGHT DOUBLE ARROW WITH VERTICAL STROKEaRIGHTWARDS TWO-HEADED ARROW FROM BAR",
    "aLEFTWARDS DOUBLE ARROW FROM BARaRIGHTWARDS ~aDOWNWARDS ARROW WITH HORIZONTAL STROKE",
    "aUPWARDS ~bTRIPLE ARROWaDOWNWARDS ~aLEFTWARDS DOUBLE DASH ARROWaRIGHTWARDS ~",
    "aLEFTWARDS TRIPLE ~aRIGHTWARDS ~bTWO-HEADED TRIPLE DASH ARROWbARROW WITH DOTTED STEM",
    "aUPWARDS ARROW TO BARaDOWNWARDS ~aRIGHTWARDS ARROW WITH TAIL WITH VERTICAL STROKE",
    "fDOUBLE VERTICAL STROKEbTWO-HEADED ARROW WITH TAILfTAIL WITH VERTICAL STROKE",
    "hDOUBLE VERTICAL STROKEaLEFTWARDS ARROW-TAILaRIGHTWARDS ~aLEFTWARDS DOUBLE ARROW-TAIL",
    "aRIGHTWARDS ~aLEFTWARDS ARROW TO BLACK DIAMONDaRIGHTWARDS ~",
    "aLEFTWARDS ARROW FROM BAR TO BLACK DIAMONDaRIGHTWARDS ~aNORTH WEST AND SOUTH EAST ARROW",
    "bEAST AND SOUTH WEST ~bWEST ARROW WITH HOOKbEAST ~aSOUTH ~bWEST ~",
    "aNORTH WEST ARROW AND NORTH EAST ARROWbEAST ARROW AND SOUTH ~",
    "aSOUTH EAST ARROW AND SOUTH WEST ~bWEST ARROW AND NORTH ~",
    "aRISING DIAGONAL CROSSING FALLING DIAGONALaFALLING DIAGONAL CROSSING RISING ~",
    "aSOUTH EAST ARROW CROSSING NORTH EAST ARROWaNORTH EAST ARROW CROSSING SOUTH ~",
    "aFALLING DIAGONAL CROSSING NORTH EAST ARROWaRISING DIAGONAL CROSSING SOUTH ~",
    "aNORTH EAST ARROW CROSSING NORTH WEST ARROWbWEST ARROW CROSSING NORTH EAST ~",
    "aWAVE ARROW POINTING DIRECTLY RIGHTaARROW POINTING RIGHTWARDS THEN CURVING UPWARDSfDOWNWARDS",
    "cDOWNWARDS THEN CURVING LEFTWARDSfRIGHTWARDSaRIGHT-SIDE ARC CLOCKWISE ARROW",
    "aLEFT-SIDE ARC ANTICLOCKWISE ~aTOP ARC ANTICLOCKWISE ARROWaBOTTOM ~",
    "aTOP ARC CLOCKWISE ARROW WITH MINUScANTICLOCKWISE ARROW WITH PLUS",
    "aLOWER RIGHT SEMICIRCULAR CLOCKWISE ARROWbLEFT SEMICIRCULAR ANTICLOCKWISE ~",
    "aANTICLOCKWISE CLOSED CIRCLE ARROWaCLOCKWISE ~aRIGHTWARDS ARROW ABOVE SHORT LEFTWARDS ARROW",
    "aLEFTWARDS ARROW ABOVE SHORT RIGHTWARDS ~aSHORT RIGHTWARDS ARROW ABOVE LEFTWARDS ~",
    "aRIGHTWARDS ARROW WITH PLUS BELOWaLEFTWARDS ~aRIGHTWARDS ARROW THROUGH X",
    "aLEFT RIGHT ARROW THROUGH SMALL CIRCLEaUPWARDS TWO-HEADED ARROW FROM SMALL CIRCLE",
    "aLEFT BARB UP RIGHT BARB DOWN HARPOONcDOWN RIGHT BARB UP ~aUP BARB RIGHT DOWN BARB LEFT ~",
    "cLEFT DOWN BARB RIGHT ~aLEFT BARB UP RIGHT BARB UP ~aUP BARB RIGHT DOWN BARB RIGHT ~",
    "aLEFT BARB DOWN RIGHT BARB DOWN ~aUP BARB LEFT DOWN BARB LEFT ~",
    "aLEFTWARDS HARPOON WITH BARB UP TO BARaRIGHTWARDS ~aUPWARDS HARPOON WITH BARB RIGHT ~",
    "aDOWNWARDS ~aLEFTWARDS HARPOON WITH BARB DOWN ~aRIGHTWARDS ~aUPWARDS HARPOON WITH BARB LEFT ~",
    "aDOWNWARDS ~aLEFTWARDS HARPOON WITH BARB UP FROM ~aRIGHTWARDS ~",
    "aUPWARDS HARPOON WITH BARB RIGHT ~aDOWNWARDS ~aLEFTWARDS HARPOON WITH BARB DOWN ~",
    "aRIGHTWARDS ~aUPWARDS HARPOON WITH BARB LEFT ~aDOWNWARDS ~",
    "aLEFTWARDS HARPOON WITH BARB UP ABOVE LEFTWARDS HARPOON WITH BARB DOWN",
    "aUPWARDS HARPOON WITH BARB LEFT BESIDE UPWARDS HARPOON WITH BARB RIGHT",
    "aRIGHTWARDS HARPOON WITH BARB UP ABOVE RIGHTWARDS HARPOON WITH BARB DOWN",
    "aDOWNWARDS HARPOON WITH BARB LEFT BESIDE DOWNWARDS HARPOON WITH BARB RIGHT",
    "aLEFTWARDS HARPOON WITH BARB UP ABOVE RIGHTWARDS HARPOON WITH BARB UP",
    "eDOWN ABOVE RIGHTWARDS HARPOON WITH BARB DOWN",
    "aRIGHTWARDS HARPOON WITH BARB UP ABOVE LEFTWARDS HARPOON WITH BARB UP",
    "eDOWN ABOVE LEFTWARDS HARPOON WITH BARB DOWNaLEFTWARDS HARPOON WITH BARB UP ABOVE LONG DASH",
    "eDOWN BELOW ~aRIGHTWARDS HARPOON WITH BARB UP ABOVE ~eDOWN BELOW ~",
    "aUPWARDS HARPOON WITH BARB LEFT BESIDE DOWNWARDS HARPOON WITH BARB RIGHT",
    "aDOWNWARDS HARPOON WITH BARB LEFT BESIDE UPWARDS ~aRIGHT DOUBLE ARROW WITH ROUNDED HEAD",
    "aEQUALS SIGN ABOVE RIGHTWARDS ARROWaTILDE OPERATOR ~aLEFTWARDS ARROW ABOVE TILDE OPERATOR",
    "aRIGHTWARDS ~dALMOST EQUAL TOaLESS-THAN ABOVE LEFTWARDS ARROW",
    "aLEFTWARDS ARROW THROUGH LESS-THANaGREATER-THAN ABOVE RIGHTWARDS ARROW",
    "aSUBSET ABOVE RIGHTWARDS ARROWaLEFTWARDS ARROW THROUGH SUBSETaSUPERSET ABOVE LEFTWARDS ARROW",
    "aLEFT FISH TAILaRIGHT ~aUP ~aDOWN ~aTRIPLE VERTICAL BAR DELIMITERaZ NOTATION SPOTcTYPE COLON",
    "aLEFT WHITE CURLY BRACKETaRIGHT ~aLEFT WHITE PARENTHESISaRIGHT ~",
    "aZ NOTATION LEFT IMAGE BRACKETcRIGHT ~cLEFT BINDING ~cRIGHT ~",
    "aLEFT SQUARE BRACKET WITH UNDERBARaRIGHT ~aLEFT SQUARE BRACKET WITH TICK IN TOP CORNER",
    "aRIGHT SQUARE BRACKET WITH TICK IN BOTTOM ~aLEFT ~aRIGHT SQUARE BRACKET WITH TICK IN TOP ~",
    "aLEFT ANGLE BRACKET WITH DOTaRIGHT ~aLEFT ARC LESS-THAN BRACKETaRIGHT ARC GREATER-~",
    "aDOUBLE LEFT ARC GREATER-THAN BRACKETbRIGHT ARC LESS-~aLEFT BLACK TORTOISE SHELL BRACKET",
    "aRIGHT ~aDOTTED FENCEaVERTICAL ZIGZAG LINEaMEASURED ANGLE OPENING LEFT",
    "aRIGHT ANGLE VARIANT WITH SQUAREaMEASURED RIGHT ANGLE WITH DOTaANGLE WITH S INSIDE",
    "aACUTE ANGLEaSPHERICAL ANGLE OPENING LEFTdUPaTURNED ANGLEaREVERSED ~aANGLE WITH UNDERBAR",
    "aREVERSED ANGLE WITH UNDERBARaOBLIQUE ANGLE OPENING UPdDOWN",
    "aMEASURED ANGLE WITH OPEN ARM ENDING IN ARROW POINTING UP AND RIGHTlLEFTjDOWN AND RIGHTlLEFT",
    "jRIGHT AND UPjLEFT ~jRIGHT AND DOWNjLEFT ~aREVERSED EMPTY SETaEMPTY SET WITH OVERBAR",
    "dSMALL CIRCLE ABOVEdRIGHT ARROW ~dLEFT ~aCIRCLE WITH HORIZONTAL BARaCIRCLED VERTICAL BAR",
    "bPARALLELbREVERSE SOLIDUSbPERPENDICULAR",
    "aCIRCLE DIVIDED BY HORIZONTAL BAR AND TOP HALF DIVIDED BY VERTICAL BARbWITH SUPERIMPOSED X",
    "aCIRCLED ANTICLOCKWISE-ROTATED DIVISION SIGNaUP ARROW THROUGH CIRCLEaCIRCLED WHITE BULLET",
    "bBULLETbLESS-THANbGREATER-~aCIRCLE WITH SMALL CIRCLE TO THE RIGHT",
    "cTWO HORIZONTAL STROKES TO THE RIGHTaSQUARED RISING DIAGONAL SLASHbFALLING ~bASTERISK",
    "bSMALL CIRCLEbSQUAREaTWO JOINED SQUARESaTRIANGLE WITH DOT ABOVEcUNDERBARaS IN TRIANGLE",
    "aTRIANGLE WITH SERIFS AT BOTTOMaRIGHT TRIANGLE ABOVE LEFT TRIANGLE",
    "aLEFT TRIANGLE BESIDE VERTICAL BARaVERTICAL BAR BESIDE RIGHT TRIANGLE",
    "aBOWTIE WITH LEFT HALF BLACKcRIGHT ~aBLACK BOWTIEaTIMES WITH LEFT HALF BLACKcRIGHT ~",
    "aWHITE HOURGLASSaBLACK ~aLEFT WIGGLY FENCEaRIGHT ~aLEFT DOUBLE WIGGLY FENCEaRIGHT ~",
    "aINCOMPLETE INFINITYaTIE OVER INFINITYaINFINITY NEGATED WITH VERTICAL BAR",
    "aDOUBLE-ENDED MULTIMAPaSQUARE WITH CONTOURED OUTLINEaINCREASES ASaSHUFFLE PRODUCT",
    "aEQUALS SIGN AND SLANTED PARALLELePARALLEL WITH TILDE ABOVEaIDENTICAL TO AND SLANTED PARALLEL",
    "aGLEICH STARKaTHERMODYNAMICaDOWN-POINTING TRIANGLE WITH LEFT HALF BLACKeRIGHT ~",
    "aBLACK DIAMOND WITH DOWN ARROWbLOZENGEaWHITE CIRCLE WITH DOWN ARROWaBLACK ~",
    "aERROR-BARRED WHITE SQUAREcBLACK ~cWHITE DIAMONDcBLACK ~cWHITE CIRCLEcBLACK ~aRULE-DELAYED",
    "aREVERSE SOLIDUS OPERATORaSOLIDUS WITH OVERBARaREVERSE SOLIDUS WITH HORIZONTAL STROKE",
    "aBIG SOLIDUSbREVERSE SOLIDUSaDOUBLE PLUSaTRIPLE ~aLEFT-POINTING CURVED ANGLE BRACKETaRIGHT-~",
    "aTINYaMINYaN-ARY CIRCLED DOT OPERATORdPLUS ~dTIMES ~cUNION OPERATOR WITH DOTfPLUS",
    "cSQUARE INTERSECTION OPERATORdUNION ~aTWO LOGICAL AND OPERATORcOR ~aN-ARY TIMES ~",
    "aMODULO TWO SUMaSUMMATION WITH INTEGRALaQUADRUPLE INTEGRAL OPERATORaFINITE PART INTEGRAL",
    "aINTEGRAL WITH DOUBLE STROKEbAVERAGE WITH SLASHaCIRCULATION FUNCTION",
    "aANTICLOCKWISE INTEGRATIONaLINE INTEGRATION WITH RECTANGULAR PATH AROUND POLEdSEMICIRCULAR ~",
    "cNOT INCLUDING THE POLEaINTEGRAL AROUND A POINT OPERATORaQUATERNION INTEGRAL OPERATOR",
    "aINTEGRAL WITH LEFTWARDS ARROW WITH HOOKcTIMES SIGNcINTERSECTIONcUNIONcOVERBARcUNDERBARaJOIN",
    "aLARGE LEFT TRIANGLE OPERATORaZ NOTATION SCHEMA COMPOSITIONdPIPINGdPROJECTION",
    "aPLUS SIGN WITH SMALL CIRCLE ABOVEdCIRCUMFLEX ACCENT ~dTILDE ABOVEdDOT BELOWdTILDE ~",
    "dSUBSCRIPT TWOdBLACK TRIANGLEaMINUS SIGN WITH COMMA ABOVEdDOT BELOWdFALLING DOTSdRISING ~",
    "aPLUS SIGN IN LEFT HALF CIRCLEdRIGHT ~aVECTOR OR CROSS PRODUCT",
    "aMULTIPLICATION SIGN WITH DOT ABOVEdUNDERBARaSEMIDIRECT PRODUCT WITH BOTTOM CLOSED",
    "aSMASH PRODUCTaMULTIPLICATION SIGN IN LEFT HALF CIRCLEdRIGHT ~",
    "aCIRCLED MULTIPLICATION SIGN WITH CIRCUMFLEX ACCENTaMULTIPLICATION SIGN IN DOUBLE CIRCLE",
    "aCIRCLED DIVISION SIGNaPLUS SIGN IN TRIANGLEaMINUS ~aMULTIPLICATION ~aINTERIOR PRODUCT",
    "aRIGHTHAND INTERIOR PRODUCTaZ NOTATION RELATIONAL COMPOSITIONaAMALGAMATION OR COPRODUCT",
    "aINTERSECTION WITH DOTaUNION WITH MINUS SIGNcOVERBARaINTERSECTION ~cLOGICAL AND",
    "aUNION WITH LOGICAL ORbABOVE INTERSECTIONaINTERSECTION ABOVE UNION",
    "aUNION ABOVE BAR ABOVE INTERSECTIONaINTERSECTION ABOVE BAR ABOVE UNION",
    "aUNION BESIDE AND JOINED WITH UNIONaINTERSECTION BESIDE AND JOINED WITH INTERSECTION",
    "aCLOSED UNION WITH SERIFSbINTERSECTION ~aDOUBLE SQUARE INTERSECTIONcUNION",
    "aCLOSED UNION WITH SERIFS AND SMASH PRODUCTaLOGICAL AND WITH DOT ABOVEbOR ~",
    "aDOUBLE LOGICAL ANDcORaTWO INTERSECTING LOGICAL ANDdORaSLOPING LARGE ORcAND",
    "aLOGICAL OR OVERLAPPING LOGICAL ANDbAND WITH MIDDLE STEMbOR ~bAND WITH HORIZONTAL DASHbOR ~",
    "bAND WITH DOUBLE OVERBARdUNDERBARdDOUBLE UNDERBARaSMALL VEE WITH UNDERBAR",
    "aLOGICAL OR WITH DOUBLE OVERBAReUNDERBARaZ NOTATION DOMAIN ANTIRESTRICTIONcRANGE ~",
    "aEQUALS SIGN WITH DOT BELOWaIDENTICAL WITH DOT ABOVE",
    "aTRIPLE HORIZONTAL BAR WITH DOUBLE VERTICAL STROKEeTRIPLE ~aTILDE OPERATOR WITH DOT ABOVE",
    "dRISING DOTSaSIMILAR MINUS SIMILARaCONGRUENT WITH DOT ABOVEaEQUALS WITH ASTERISK",
    "aALMOST EQUAL TO WITH CIRCUMFLEX ACCENTaAPPROXIMATELY EQUAL OR EQUAL TO",
    "aEQUALS SIGN ABOVE PLUS SIGNaPLUS SIGN ABOVE EQUALS ~aEQUALS SIGN ABOVE TILDE OPERATOR",
    "aDOUBLE COLON EQUALaTWO CONSECUTIVE EQUALS SIGNSaTHREE ~",
    "aEQUALS SIGN WITH TWO DOTS ABOVE AND TWO DOTS BELOWaEQUIVALENT WITH FOUR DOTS ABOVE",
    "aLESS-THAN WITH CIRCLE INSIDEaGREATER-~aLESS-THAN WITH QUESTION MARK ABOVEaGREATER-~",
    "aLESS-THAN OR SLANTED EQUAL TOaGREATER-~aLESS-THAN OR SLANTED EQUAL TO WITH DOT INSIDE",
    "aGREATER-~aLESS-THAN OR SLANTED EQUAL TO WITH DOT ABOVEaGREATER-~",
    "aLESS-THAN OR SLANTED EQUAL TO WITH DOT ABOVE RIGHT",
    "aGREATER-THAN OR SLANTED EQUAL TO WITH DOT ABOVE LEFTaLESS-THAN OR APPROXIMATEaGREATER-~",
    "aLESS-THAN AND SINGLE-LINE NOT EQUAL TOaGREATER-~aLESS-THAN AND NOT APPROXIMATEaGREATER-~",
    "aLESS-THAN ABOVE DOUBLE-LINE EQUAL ABOVE GREATER-THAN",
    "aGREATER-THAN ABOVE DOUBLE-LINE EQUAL ABOVE LESS-~aLESS-THAN ABOVE SIMILAR OR EQUALaGREATER-~",
    "aLESS-THAN ABOVE SIMILAR ABOVE GREATER-THANaGREATER-THAN ABOVE SIMILAR ABOVE LESS-~",
    "aLESS-THAN ABOVE GREATER-THAN ABOVE DOUBLE-LINE EQUALaGREATER-THAN ABOVE LESS-~",
    "aLESS-THAN ABOVE SLANTED EQUAL ABOVE GREATER-THAN ABOVE SLANTED EQUAL",
    "aGREATER-THAN ABOVE SLANTED EQUAL ABOVE LESS-~aSLANTED EQUAL TO OR LESS-THANeGREATER-~",
    "eLESS-THAN WITH DOT INSIDEeGREATER-~aDOUBLE-LINE EQUAL TO OR LESS-THANfGREATER-~",
    "cSLANTED EQUAL TO OR LESS-THANgGREATER-~aSIMILAR OR LESS-THANcGREATER-~",
    "bABOVE LESS-THAN ABOVE EQUALS SIGNcGREATER-~aDOUBLE NESTED LESS-THANcGREATER-~",
    "cLESS-THAN WITH UNDERBARaGREATER-THAN OVERLAPPING LESS-THANcBESIDE ~",
    "aLESS-THAN CLOSED BY CURVEaGREATER-~aLESS-THAN CLOSED BY CURVE ABOVE SLANTED EQUALaGREATER-~",
    "aSMALLER THANaLARGER ~aSMALLER THAN OR EQUAL TOaLARGER ~aEQUALS SIGN WITH BUMPY ABOVE",
    "aPRECEDES ABOVE SINGLE-LINE EQUALS SIGNaSUCCEEDS ~aPRECEDES ABOVE SINGLE-LINE NOT EQUAL TO",
    "aSUCCEEDS ~aPRECEDES ABOVE EQUALS SIGNaSUCCEEDS ~aPRECEDES ABOVE NOT EQUAL TOaSUCCEEDS ~",
    "aPRECEDES ABOVE ALMOST ~aSUCCEEDS ~aPRECEDES ABOVE NOT ALMOST EQUAL TOaSUCCEEDS ~",
    "aDOUBLE PRECEDESbSUCCEEDSaSUBSET WITH DOTaSUPERSET ~aSUBSET WITH PLUS SIGN BELOWaSUPERSET ~",
    "aSUBSET WITH MULTIPLICATION ~aSUPERSET ~aSUBSET OF OR EQUAL TO WITH DOT ABOVEaSUPERSET ~",
    "aSUBSET OF ABOVE EQUALS SIGNaSUPERSET ~aSUBSET OF ABOVE TILDE OPERATORaSUPERSET ~",
    "aSUBSET OF ABOVE ALMOST EQUAL TOaSUPERSET ~aSUBSET OF ABOVE NOT ~aSUPERSET ~",
    "aSQUARE LEFT OPEN BOX OPERATORbRIGHT ~aCLOSED SUBSETbSUPERSETbSUBSET OR EQUAL TObSUPERSET ~",
    "aSUBSET ABOVE SUPERSETaSUPERSET ABOVE SUBSETaSUBSET ~aSUPERSET ABOVE SUPERSETbBESIDE SUBSET",
    "cAND JOINED BY DASH WITH SUBSETaELEMENT OF OPENING DOWNWARDSaPITCHFORK WITH TEE TOP",
    "aTRANSVERSAL INTERSECTIONaFORKINGaNONFORKINGaSHORT LEFT TACKbDOWN ~bUP ~aPERPENDICULAR WITH S",
    "aVERTICAL BAR TRIPLE RIGHT TURNSTILEaDOUBLE VERTICAL BAR LEFT ~aVERTICAL BAR DOUBLE ~",
    "aDOUBLE VERTICAL BAR DOUBLE LEFT TURNSTILEaLONG DASH FROM LEFT MEMBER OF DOUBLE VERTICAL",
    "aSHORT DOWN TACK WITH OVERBARbUP TACK WITH UNDERBARdABOVE SHORT DOWN TACKaDOUBLE DOWN TACK",
    "bUP ~bSTROKE NOT SIGNaREVERSED DOUBLE STROKE NOT SIGN",
    "aDOES NOT DIVIDE WITH REVERSED NEGATION SLASHaVERTICAL LINE WITH CIRCLE ABOVEeBELOW",
    "aDOWN TACK ~aPARALLEL WITH HORIZONTAL STROKEcTILDE OPERATOR",
    "aTRIPLE VERTICAL BAR BINARY RELATIONdWITH HORIZONTAL STROKEbCOLON OPERATORbNESTED LESS-THAN",
    "cGREATER-~aDOUBLE-LINE SLANTED LESS-THAN OR EQUAL TOdGREATER-~aTRIPLE SOLIDUS BINARY RELATION",
    "aLARGE TRIPLE VERTICAL BAR OPERATORaDOUBLE SOLIDUS OPERATORaWHITE VERTICAL BAR",
    "aN-ARY WHITE VERTICAL BARaNORTH EAST WHITE ARROWbWEST ~aSOUTH EAST ~bWEST ~aLEFT RIGHT ~",
    "aLEFTWARDS BLACK ARROWaUPWARDS ~aDOWNWARDS ~aNORTH EAST BLACK ARROWbWEST ~aSOUTH EAST ~",
    "bWEST ~aLEFT RIGHT ~aUP DOWN ~aRIGHTWARDS ARROW WITH TIP DOWNWARDSeUPWARDS",
    "aLEFTWARDS ARROW WITH TIP DOWNWARDSeUPWARDSaSQUARE WITH TOP HALF BLACKcBOTTOM ~",
    "cUPPER RIGHT DIAGONAL HALF BLACKcLOWER LEFT ~aDIAMOND WITH LEFT HALF BLACKcRIGHT ~cTOP ~",
    "cBOTTOM ~aDOTTED SQUAREaBLACK LARGE SQUAREaWHITE ~aBLACK VERY SMALL SQUAREaWHITE ~",
    "aBLACK PENTAGONaWHITE ~bHEXAGONaBLACK ~aHORIZONTAL BLACK HEXAGONaBLACK LARGE CIRCLE",
    "bMEDIUM DIAMONDaWHITE ~aBLACK MEDIUM LOZENGEaWHITE ~aBLACK SMALL DIAMONDcLOZENGEaWHITE ~",
    "aBLACK HORIZONTAL ELLIPSEaWHITE ~aBLACK VERTICAL ~aWHITE ~aLEFT ARROW WITH SMALL CIRCLE",
    "aTHREE LEFTWARDS ARROWSaLEFT ARROW WITH CIRCLED PLUSaLONG LEFTWARDS SQUIGGLE ARROW",
    "aLEFTWARDS TWO-HEADED ARROW WITH VERTICAL STROKEfDOUBLE VERTICAL STROKEeFROM BAR",
    "dTRIPLE DASH ARROWbARROW WITH DOTTED STEMdTAIL WITH VERTICAL STROKEfDOUBLE VERTICAL STROKE",
    "bTWO-HEADED ARROW WITH TAILfTAIL WITH VERTICAL STROKEhDOUBLE VERTICAL STROKEbARROW THROUGH X",
    "aWAVE ARROW POINTING DIRECTLY LEFTaEQUALS SIGN ABOVE LEFTWARDS ARROW",
    "aREVERSE TILDE OPERATOR ABOVE LEFTWARDS ARROWaLEFTWARDS ARROW ABOVE REVERSE ALMOST EQUAL TO",
    "aRIGHTWARDS ARROW THROUGH GREATER-THANdSUPERSETaLEFTWARDS QUADRUPLE ARROWaRIGHTWARDS ~",
    "aREVERSE TILDE OPERATOR ABOVE RIGHTWARDS ARROWaRIGHTWARDS ARROW ABOVE REVERSE ALMOST EQUAL TO",
    "aTILDE OPERATOR ABOVE LEFTWARDS ARROWaLEFTWARDS ARROW ABOVE ALMOST EQUAL TO",
    "dREVERSE TILDE OPERATORaRIGHTWARDS ~aDOWNWARDS TRIANGLE-HEADED ZIGZAG ARROW",
    "aSHORT SLANTED NORTH ARROWbBACKSLANTED SOUTH ~aWHITE MEDIUM STARaBLACK SMALL ~aWHITE ~",
    "aBLACK RIGHT-POINTING PENTAGONaWHITE ~aHEAVY LARGE CIRCLEbOVAL WITH OVAL INSIDE",
    "bCIRCLE WITH CIRCLE ~bCIRCLEbCIRCLED SALTIREaSLANTED NORTH ARROW WITH HOOKED HEAD",
    "aBACKSLANTED SOUTH ARROW WITH HOOKED TAILaSLANTED NORTH ARROW WITH HORIZONTAL ~",
    "aBACKSLANTED SOUTH ~aBENT ARROW POINTING DOWNWARDS THEN NORTH EAST",
    "aSHORT BENT ARROW POINTING DOWNWARDS THEN NORTH EASTaLEFTWARDS TRIANGLE-HEADED ARROW",
    "aUPWARDS ~aRIGHTWARDS ~aDOWNWARDS ~aLEFT RIGHT TRIANGLE-HEADED ARROWaUP DOWN ~aNORTH WEST ~",
    "bEAST ~aSOUTH ~bWEST ~aLEFTWARDS TRIANGLE-HEADED DASHED ~aUPWARDS ~aRIGHTWARDS ~aDOWNWARDS ~",
    "aCLOCKWISE TRIANGLE-HEADED OPEN CIRCLE ARROWaANTICLOCKWISE ~",
    "aLEFTWARDS TRIANGLE-HEADED ARROW TO BARaUPWARDS ~aRIGHTWARDS ~aDOWNWARDS ~",
    "@2B76aNORTH WEST TRIANGLE-HEADED ARROW TO BARbEAST ~aSOUTH ~bWEST ~",
    "aLEFTWARDS TRIANGLE-HEADED ARROW WITH DOUBLE HORIZONTAL STROKEaUPWARDS ~aRIGHTWARDS ~",
    "aDOWNWARDS ~aHORIZONTAL TAB KEYaVERTICAL ~",
    "aLEFTWARDS TRIANGLE-HEADED ARROW OVER RIGHTWARDS TRIANGLE-HEADED ARROW",
    "aUPWARDS TRIANGLE-HEADED ARROW LEFTWARDS OF DOWNWARDS TRIANGLE-HEADED ARROW",
    "aRIGHTWARDS TRIANGLE-HEADED ARROW OVER LEFTWARDS TRIANGLE-HEADED ARROW",
    "aDOWNWARDS TRIANGLE-HEADED ARROW LEFTWARDS OF UPWARDS TRIANGLE-HEADED ARROW",
    "aLEFTWARDS TRIANGLE-HEADED PAIRED ARROWSaUPWARDS ~aRIGHTWARDS ~aDOWNWARDS ~",
    "aLEFTWARDS BLACK CIRCLED WHITE ARROWaUPWARDS ~aRIGHTWARDS ~aDOWNWARDS ~",
    "aANTICLOCKWISE TRIANGLE-HEADED RIGHT U-SHAPED ARROWdBOTTOM ~dLEFT ~dTOP ~aRETURN LEFTbRIGHT",
    "aNEWLINE LEFTbRIGHTaFOUR CORNER ARROWS CIRCLING ANTICLOCKWISEaRIGHTWARDS BLACK ARROW",
    "@2B97aSYMBOL FOR TYPE A ELECTRONICSaTHREE-D TOP-LIGHTED LEFTWARDS EQUILATERAL ARROWHEAD",
    "cRIGHT-LIGHTED UPWARDS ~cTOP-LIGHTED RIGHTWARDS ~cLEFT-LIGHTED DOWNWARDS ~",
    "aBLACK LEFTWARDS EQUILATERAL ARROWHEADbUPWARDS ~bRIGHTWARDS ~bDOWNWARDS ~",
    "aDOWNWARDS TRIANGLE-HEADED ARROW WITH LONG TIP LEFTWARDShRIGHTWARDS",
    "aUPWARDS TRIANGLE-HEADED ARROW WITH LONG TIP LEFTWARDShRIGHTWARDS",
    "aLEFTWARDS TRIANGLE-HEADED ARROW WITH LONG TIP UPWARDSaRIGHTWARDS ~",
    "aLEFTWARDS TRIANGLE-HEADED ARROW WITH LONG TIP DOWNWARDSaRIGHTWARDS ~",
    "aBLACK CURVED DOWNWARDS AND LEFTWARDS ARROWeRIGHTWARDS ~cUPWARDS AND LEFTWARDS ~eRIGHTWARDS ~",
    "cLEFTWARDS AND UPWARDS ~cRIGHTWARDS ~cLEFTWARDS AND DOWNWARDS ~cRIGHTWARDS ~",
    "aRIBBON ARROW DOWN LEFTdRIGHTcUP LEFTdRIGHTcLEFT UPcRIGHT ~cLEFT DOWNcRIGHT ~",
    "aUPWARDS WHITE ARROW FROM BAR WITH HORIZONTAL BARaUP ARROWHEAD IN A RECTANGLE BOX",
    "aOVERLAPPING WHITE SQUAREScAND BLACK SQUARESbBLACK SQUARESaBALLOT BOX WITH LIGHT XaCIRCLED X",
    "bBOLD XaBLACK SQUARE CENTREDbDIAMOND ~aTURNED BLACK PENTAGONaHORIZONTAL BLACK OCTAGON",
    "aBLACK OCTAGONbMEDIUM UP-POINTING TRIANGLE CENTREDcDOWN-~cLEFT-~cRIGHT-~aNEPTUNE FORM TWO",
    "aTOP HALF BLACK CIRCLEaBOTTOM ~aLIGHT FOUR POINTED BLACK CUSP",
    "aROTATED LIGHT FOUR POINTED BLACK CUSPaWHITE FOUR POINTED CUSP",
    "aROTATED WHITE FOUR POINTED CUSPaSQUARE POSITION INDICATORaUNCERTAINTY SIGNaGROUP MARK",
    "aPLUTO FORM TWOcTHREEcFOURcFIVEaTRANSPLUTOaPROSERPINAaASTRAEAaHYGIEAaPHOLUSaNESSUS",
    "aWHITE MOON SELENAaBLACK DIAMOND ON CROSSaTRUE LIGHT MOON ARTAaCUPIDOaHADESaZEUSaKRONOS",
    "aAPOLLONaADMETOSaVULCANUSaPOSEIDONaLEFT HALF BLACK STARaRIGHT ~aSTAR WITH LEFT HALF BLACK",
    "cRIGHT ~aLEFTWARDS TWO-HEADED ARROW WITH TRIANGLE ARROWHEADSaUPWARDS ~aRIGHTWARDS ~",
    "aDOWNWARDS ~aERIS FORM ONEcTWOaSEDNAaRUSSIAN ASTROLOGICAL SYMBOL VIGINTILEdNOVILEdQUINTILE",
    "dBINOVILEdSENTAGONdTREDECILEaEQUALS SIGN WITH INFINITY BELOWaUNITED SYMBOLaSEPARATED ~",
    "aDOUBLED ~aPASSED ~aREVERSED RIGHT ANGLEaHELLSCHREIBER PAUSE SYMBOL",
    "aGLAGOLITIC CAPITAL LETTER AZUdBUKYdVEDEdGLAGOLIdDOBROdYESTUdZHIVETEdDZELOdZEMLJAdIZHE",
    "dINITIAL IZHEdIdDJERVIdKAKOdLJUDIJEdMYSLITEdNASHIdONUdPOKOJIdRITSIdSLOVOdTVRIDOdUKUdFRITU",
    "dHERUdOTUdPEdSHTAdTSIdCHRIVIdSHAdYERUdYERIdYATIdSPIDERY HAdYUdSMALL YUSeYUS WITH TAILdYO",
    "dIOTATED SMALL YUSdBIG YUSdIOTATED BIG YUSdFITAdIZHITSAdSHTAPICdTROKUTASTI AdLATINATE MYSLITE",
    "dCAUDATE CHRIVIbSMALL LETTER AZUdBUKYdVEDEdGLAGOLIdDOBROdYESTUdZHIVETEdDZELOdZEMLJAdIZHE",
    "dINITIAL IZHEdIdDJERVIdKAKOdLJUDIJEdMYSLITEdNASHIdONUdPOKOJIdRITSIdSLOVOdTVRIDOdUKUdFRITU",
    "dHERUdOTUdPEdSHTAdTSIdCHRIVIdSHAdYERUdYERIdYATIdSPIDERY HAdYUdSMALL YUSeYUS WITH TAILdYO",
    "dIOTATED SMALL YUSdBIG YUSdIOTATED BIG YUSdFITAdIZHITSAdSHTAPICdTROKUTASTI AdLATINATE MYSLITE",
    "dCAUDATE CHRIVIaLATIN CAPITAL LETTER L WITH DOUBLE BARbSMALL ~",
    "bCAPITAL LETTER L WITH MIDDLE TILDEdP WITH STROKEdR WITH TAILbSMALL LETTER A WITH STROKE",
    "dT WITH DIAGONAL STROKEbCAPITAL LETTER H WITH DESCENDERbSMALL ~bCAPITAL LETTER K ~bSMALL ~",
    "bCAPITAL LETTER Z ~bSMALL ~bCAPITAL LETTER ALPHAdM WITH HOOKdTURNED AeALPHA",
    "bSMALL LETTER V WITH RIGHT HOOKbCAPITAL LETTER W WITH HOOKbSMALL ~dV WITH CURL",
    "bCAPITAL LETTER HALF HbSMALL ~dTAILLESS PHIdE WITH NOTCHdTURNED R WITH TAIL",
    "dO WITH LOW RING INSIDEbLETTER SMALL CAPITAL TURNED EbSUBSCRIPT SMALL LETTER J",
    "aMODIFIER LETTER CAPITAL VaLATIN CAPITAL LETTER S WITH SWASH TAILdZ ~",
    "aCOPTIC CAPITAL LETTER ALFAbSMALL ~bCAPITAL LETTER VIDAbSMALL ~bCAPITAL LETTER GAMMAbSMALL ~",
    "bCAPITAL LETTER DALDAbSMALL ~bCAPITAL LETTER EIEbSMALL ~bCAPITAL LETTER SOUbSMALL ~",
    "bCAPITAL LETTER ZATAbSMALL ~bCAPITAL LETTER HATEbSMALL ~bCAPITAL LETTER THETHEbSMALL ~",
    "bCAPITAL LETTER IAUDAbSMALL ~bCAPITAL LETTER KAPAbSMALL ~bCAPITAL LETTER LAULAbSMALL ~",
    "bCAPITAL LETTER MIbSMALL ~bCAPITAL LETTER NIbSMALL ~bCAPITAL LETTER KSIbSMALL ~",
    "bCAPITAL LETTER ObSMALL ~bCAPITAL LETTER PIbSMALL ~bCAPITAL LETTER RObSMALL ~",
    "bCAPITAL LETTER SIMAbSMALL ~bCAPITAL LETTER TAUbSMALL ~bCAPITAL LETTER UAbSMALL ~",
    "bCAPITAL LETTER FIbSMALL ~bCAPITAL LETTER KHIbSMALL ~bCAPITAL LETTER PSIbSMALL ~",
    "bCAPITAL LETTER OOUbSMALL ~bCAPITAL LETTER DIALECT-P ALEFbSMALL ~",
    "bCAPITAL LETTER OLD COPTIC AINbSMALL ~bCAPITAL LETTER CRYPTOGRAMMIC EIEbSMALL ~",
    "bCAPITAL LETTER DIALECT-P KAPAbSMALL ~bCAPITAL LETTER DIALECT-P NIbSMALL ~",
    "bCAPITAL LETTER CRYPTOGRAMMIC NIbSMALL ~bCAPITAL LETTER OLD COPTIC OOUbSMALL ~",
    "bCAPITAL LETTER SAMPIbSMALL ~bCAPITAL LETTER CROSSED SHEIbSMALL ~",
    "bCAPITAL LETTER OLD COPTIC SHEIbSMALL ~bCAPITAL LETTER OLD COPTIC ESHbSMALL ~",
    "bCAPITAL LETTER AKHMIMIC KHEIbSMALL ~bCAPITAL LETTER DIALECT-P HORIbSMALL ~",
    "bCAPITAL LETTER OLD COPTIC ~bSMALL ~bCAPITAL LETTER OLD COPTIC HAbSMALL ~",
    "bCAPITAL LETTER L-SHAPED ~bSMALL ~bCAPITAL LETTER OLD COPTIC HEIbSMALL ~",
    "bCAPITAL LETTER OLD COPTIC HATbSMALL ~bCAPITAL LETTER OLD COPTIC GANGIAbSMALL ~",
    "bCAPITAL LETTER OLD COPTIC DJAbSMALL ~bCAPITAL LETTER OLD COPTIC SHIMAbSMALL ~",
    "bCAPITAL LETTER OLD NUBIAN ~bSMALL ~bCAPITAL LETTER OLD NUBIAN NGIbSMALL ~",
    "bCAPITAL LETTER OLD NUBIAN NYIbSMALL ~bCAPITAL LETTER OLD NUBIAN WAUbSMALL ~bSYMBOL KAIcMI RO",
    "cPI ~cSTAUROScTAU ROcKHI ~cSHIMA SIMAbCAPITAL LETTER CRYPTOGRAMMIC SHEIbSMALL ~",
    "bCAPITAL LETTER CRYPTOGRAMMIC GANGIAbSMALL ~bCOMBINING NI ABOVEcSPIRITUS ASPERdLENIS",
    "bCAPITAL LETTER BOHAIRIC KHEIbSMALL ~@2CF9bOLD NUBIAN FULL STOPdDIRECT QUESTION MARK",
    "dINDIRECT ~dVERSE DIVIDERbFRACTION ONE HALFbFULL STOPbMORPHOLOGICAL DIVIDER",
    "aGEORGIAN SMALL LETTER ANdBANdGANdDONdENdVINdZENdTANdINdKANdLASdMANdNARdONdPARdZHARdRAEdSAN",
    "dTARdUNdPHARdKHARdGHANdQARdSHINdCHINdCANdJILdCILdCHARdXANdJHANdHAEdHEdHIEdWEdHARdHOE@2D27dYN",
    "@2D2DdAEN@2D30aTIFINAGH LETTER YAcYABcYABHcYAGcYAGHHcBERBER ACADEMY YAJcYAJcYADcYADHcYADD",
    "cYADDHcYEYcYAFcYAKcTUAREG YAKcYAKHHcYAHcBERBER ACADEMY YAHcTUAREG YAHcYAHHcYAAcYAKH",
    "cTUAREG YAKHcYAQcTUAREG YAQcYIcYAZHcAHAGGAR YAZHcTUAREG ~cYALcYAMcYANcTUAREG YAGNdYANGcYAPcYU",
    "cYARcYARRcYAGHcTUAREG YAGHcAYER ~cYAScYASScYASHcYATcYATHcYACHcYATTcYAVcYAWcYAYcYAZ",
    "cTAWELLEMET YAZcYAZZcYEcYO@2D6FbMODIFIER LETTER LABIALIZATION MARKbSEPARATOR MARK",
    "@2D7FbCONSONANT JOINERaETHIOPIC SYLLABLE LOAcMOAcROAcSOAcSHOAcBOAcTOAcCOAcNOAcNYOAcGLOTTAL OA",
    "cZOAcDOAcDDOAcJOAcTHOAcCHOAcPHOAcPOAcGGWAcGGWIcGGWEEcGGWE@2DA0cSSAcSSUcSSIcSSAAcSSEEcSSEcSSO",
    "@2DA8cCCAcCCUcCCIcCCAAcCCEEcCCEcCCO@2DB0cZZAcZZUcZZIcZZAAcZZEEcZZEcZZO@2DB8cCCHAcCCHUcCCHI",
    "cCCHAAcCCHEEcCCHEcCCHO@2DC0cQYAcQYUcQYIcQYAAcQYEEcQYEcQYO@2DC8cKYAcKYUcKYIcKYAAcKYEEcKYEcKYO",
    "@2DD0cXYAcXYUcXYIcXYAAcXYEEcXYEcXYO@2DD8cGYAcGYUcGYIcGYAAcGYEEcGYEcGYO",
    "@2DE0aCOMBINING CYRILLIC LETTER BEdVEdGHEdDEdZHEdZEdKAdELdEMdENdOdPEdERdESdTEdHAdTSEdCHEdSHA",
    "dSHCHAdFITAdES-TEdAdIEdDJERVdMONOGRAPH UKdYATdYUdIOTIFIED AdLITTLE YUSdBIG ~dIOTIFIED BIG YUS",
    "aRIGHT ANGLE SUBSTITUTION MARKERcDOTTED SUBSTITUTION MARKERaLEFT SUBSTITUTION BRACKETaRIGHT ~",
    "aLEFT DOTTED SUBSTITUTION BRACKETaRIGHT ~aRAISED INTERPOLATION MARKER",
    "bDOTTED INTERPOLATION MARKERaDOTTED TRANSPOSITION MARKERaLEFT TRANSPOSITION BRACKETaRIGHT ~",
    "aRAISED SQUAREaLEFT RAISED OMISSION BRACKETaRIGHT ~aEDITORIAL CORONISaPARAGRAPHOS",
    "aFORKED PARAGRAPHOSaREVERSED FORKED PARAGRAPHOSaHYPODIASTOLEaDOTTED OBELOSaDOWNWARDS ANCORA",
    "aUPWARDS ~aDOTTED RIGHT-POINTING ANGLEaDOUBLE OBLIQUE HYPHENaINVERTED INTERROBANGaPALM BRANCH",
    "aHYPHEN WITH DIAERESISaTILDE WITH RING ABOVEaLEFT LOW PARAPHRASE BRACKETaRIGHT ~",
    "aTILDE WITH DOT ABOVEdBELOWaLEFT VERTICAL BAR WITH QUILLaRIGHT ~aTOP LEFT HALF BRACKET",
    "bRIGHT ~aBOTTOM LEFT ~bRIGHT ~aLEFT SIDEWAYS U ~aRIGHT ~aLEFT DOUBLE PARENTHESISaRIGHT ~",
    "aTWO DOTS OVER ONE DOT PUNCTUATIONaONE DOT OVER TWO DOTS ~aSQUARED FOUR DOT PUNCTUATION",
    "aFIVE DOT MARKaREVERSED QUESTION ~aVERTICAL TILDEaRING POINTaWORD SEPARATOR MIDDLE DOT",
    "aTURNED COMMAaRAISED DOTbCOMMAaTURNED SEMICOLONaDAGGER WITH LEFT GUARDcRIGHT ~aTURNED DAGGER",
    "aTOP HALF SECTION SIGNaTWO-EM DASHaTHREE-~aSTENOGRAPHIC FULL STOPaVERTICAL SIX DOTS",
    "aWIGGLY VERTICAL LINEaCAPITULUMaDOUBLE HYPHENaREVERSED COMMA",
    "aDOUBLE LOW-REVERSED-9 QUOTATION MARKaDASH WITH LEFT UPTURNaDOUBLE SUSPENSION MARK",
    "aINVERTED LOW KAVYKAcKAVYKA WITH KAVYKA ABOVEaLOW KAVYKAbKAVYKA WITH DOTaDOUBLE STACKED COMMA",
    "aDOTTED SOLIDUSaTRIPLE DAGGERaMEDIEVAL COMMAaPARAGRAPHUS MARKaPUNCTUS ELEVATUS MARK",
    "aCORNISH VERSE DIVIDERaCROSS PATTY WITH RIGHT CROSSBARdLEFT ~aTIRONIAN SIGN CAPITAL ET",
    "aMEDIEVAL EXCLAMATION MARKbQUESTION ~aLEFT SQUARE BRACKET WITH STROKEaRIGHT ~",
    "aLEFT SQUARE BRACKET WITH DOUBLE STROKEaRIGHT ~aTOP HALF LEFT PARENTHESIScRIGHT ~",
    "aBOTTOM HALF LEFT ~cRIGHT ~aOBLIQUE HYPHEN@2E80aCJK RADICAL REPEATcCLIFFcSECOND ONEdTWOdTHREE",
    "cPERSONcBOXcTABLEcKNIFE ONEdTWOcDIVINATIONcSEALcSMALL ONEdTWOcLAME ONEdTWOdTHREEdFOURcSNAKE",
    "cTHREADcSNOUT ONEdTWOcHEART ONEdTWOcHANDcRAP@2E9BcCHOKEcSUNcMOONcDEATHcMOTHERcCIVILIAN",
    "cWATER ONEdTWOcFIREcPAW ONEdTWOcSIMPLIFIED HALF TREE TRUNKcCOWcDOGcJADEcBOLT OF CLOTHcEYE",
    "cSPIRIT ONEdTWOcBAMBOOcSILKcC-SIMPLIFIED SILKcNET ONEdTWOdTHREEdFOURcMESHcSHEEPcRAMcEWEcOLD",
    "cBRUSH ONEdTWOcMEATcMORTARcGRASS ONEdTWOdTHREEcTIGERcCLOTHEScWEST ONEdTWOcC-SIMPLIFIED SEE",
    "cSIMPLIFIED HORNcHORNcC-SIMPLIFIED SPEECHeSHELLcFOOTcC-SIMPLIFIED CARTcSIMPLIFIED WALK",
    "cWALK ONEdTWOcCITYcC-SIMPLIFIED GOLDcLONG ONEdTWOcC-SIMPLIFIED LONGeGATEcMOUND ONEdTWOcRAIN",
    "cBLUEcC-SIMPLIFIED TANNED LEATHEReLEAFeWINDeFLYcEAT ONEdTWOdTHREEcC-SIMPLIFIED EATcHEAD",
    "cC-SIMPLIFIED HORSEcBONEcGHOSTcC-SIMPLIFIED FISHeBIRDeSALTcSIMPLIFIED WHEATdYELLOW",
    "cC-SIMPLIFIED FROGcJ-SIMPLIFIED EVENcC-~cJ-SIMPLIFIED TOOTHcC-~cJ-SIMPLIFIED DRAGONcC-~",
    "cTURTLEcJ-SIMPLIFIED TURTLEcC-~@2F00aKANGXI RADICAL ONEcLINEcDOTcSLASHcSECONDcHOOKcTWOcLID",
    "cMANcLEGScENTERcEIGHTcDOWN BOXcCOVERcICEcTABLEcOPEN BOXcKNIFEcPOWERcWRAPcSPOONcRIGHT OPEN BOX",
    "cHIDING ENCLOSUREcTENcDIVINATIONcSEALcCLIFFcPRIVATEcAGAINcMOUTHcENCLOSUREcEARTHcSCHOLARcGO",
    "cGO SLOWLYcEVENINGcBIGcWOMANcCHILDcROOFcINCHcSMALLcLAMEcCORPSEcSPROUTcMOUNTAINcRIVERcWORK",
    "cONESELFcTURBANcDRYcSHORT THREADcDOTTED CLIFFcLONG STRIDEcTWO HANDScSHOOTcBOWcSNOUTcBRISTLE",
    "cSTEPcHEARTcHALBERDcDOORcHANDcBRANCHcRAPcSCRIPTcDIPPERcAXEcSQUAREcNOTcSUNcSAYcMOONcTREEcLACK",
    "cSTOPcDEATHcWEAPONcDO NOTcCOMPAREcFURcCLANcSTEAMcWATERcFIREcCLAWcFATHERcDOUBLE X",
    "cHALF TREE TRUNKcSLICEcFANGcCOWcDOGcPROFOUNDcJADEcMELONcTILEcSWEETcLIFEcUSEcFIELD",
    "cBOLT OF CLOTHcSICKNESScDOTTED TENTcWHITEcSKINcDISHcEYEcSPEARcARROWcSTONEcSPIRITcTRACKcGRAIN",
    "cCAVEcSTANDcBAMBOOcRICEcSILKcJARcNETcSHEEPcFEATHERcOLDcANDcPLOWcEARcBRUSHcMEATcMINISTERcSELF",
    "cARRIVEcMORTARcTONGUEcOPPOSEcBOATcSTOPPINGcCOLORcGRASScTIGERcINSECTcBLOODcWALK ENCLOSURE",
    "cCLOTHEScWESTcSEEcHORNcSPEECHcVALLEYcBEANcPIGcBADGERcSHELLcREDcRUNcFOOTcBODYcCARTcBITTER",
    "cMORNINGcWALKcCITYcWINEcDISTINGUISHcVILLAGEcGOLDcLONGcGATEcMOUNDcSLAVEcSHORT TAILED BIRDcRAIN",
    "cBLUEcWRONGcFACEcLEATHERcTANNED LEATHERcLEEKcSOUNDcLEAFcWINDcFLYcEATcHEADcFRAGRANTcHORSEcBONE",
    "cTALLcHAIRcFIGHTcSACRIFICIAL WINEcCAULDRONcGHOSTcFISHcBIRDcSALTcDEERcWHEATcHEMPcYELLOWcMILLET",
    "cBLACKcEMBROIDERYcFROGcTRIPODcDRUMcRATcNOSEcEVENcTOOTHcDRAGONcTURTLEcFLUTE",
    "@2FF0aIDEOGRAPHIC DESCRIPTION CHARACTER LEFT TO RIGHTdABOVE TO BELOWdLEFT TO MIDDLE AND RIGHT",
    "dABOVE TO MIDDLE AND BELOWdFULL SURROUNDdSURROUND FROM ABOVEfBELOWfLEFTfUPPER LEFTgRIGHT",
    "fLOWER LEFTdOVERLAID@3000bSPACEbCOMMAbFULL STOPaDITTO MARK",
    "aJAPANESE INDUSTRIAL STANDARD SYMBOLaIDEOGRAPHIC ITERATION MARKbCLOSING ~bNUMBER ZERO",
    "aLEFT ANGLE BRACKETaRIGHT ~aLEFT DOUBLE ANGLE BRACKETaRIGHT ~aLEFT CORNER BRACKETaRIGHT ~",
    "aLEFT WHITE CORNER BRACKETaRIGHT ~aLEFT BLACK LENTICULAR ~aRIGHT ~aPOSTAL MARKaGETA ~",
    "aLEFT TORTOISE SHELL BRACKETaRIGHT ~aLEFT WHITE LENTICULAR ~aRIGHT ~",
    "aLEFT WHITE TORTOISE SHELL BRACKETaRIGHT ~aLEFT WHITE SQUARE BRACKETaRIGHT ~aWAVE DASH",
    "aREVERSED DOUBLE PRIME QUOTATION MARKaDOUBLE PRIME QUOTATION MARK",
    "aLOW DOUBLE PRIME QUOTATION MARKaPOSTAL MARK FACEaHANGZHOU NUMERAL ONEcTWOcTHREEcFOURcFIVE",
    "cSIXcSEVENcEIGHTcNINEaIDEOGRAPHIC LEVEL TONE MARKbRISING ~bDEPARTING ~bENTERING ~",
    "aHANGUL SINGLE DOT TONE MARKbDOUBLE ~aWAVY DASHaVERTICAL KANA REPEAT MARK",
    "dWITH VOICED SOUND MARKdMARK UPPER HALFdWITH VOICED SOUND MARK UPPER HALFdMARK LOWER HALF",
    "aCIRCLED POSTAL MARKaIDEOGRAPHIC TELEGRAPH LINE FEED SEPARATOR SYMBOLaHANGZHOU NUMERAL TEN",
    "cTWENTYcTHIRTYaVERTICAL IDEOGRAPHIC ITERATION MARKaMASU MARKaPART ALTERNATION MARK",
    "aIDEOGRAPHIC VARIATION INDICATORbHALF FILL SPACE@3041aHIRAGANA LETTER SMALL AcAcSMALL IcI",
    "cSMALL UcUcSMALL EcEcSMALL OcOcKAcGAcKIcGIcKUcGUcKEcGEcKOcGOcSAcZAcSIcZIcSUcZUcSEcZEcSOcZOcTA",
    "cDAcTIcDIcSMALL TUcTUcDUcTEcDEcTOcDOcNAcNIcNUcNEcNOcHAcBAcPAcHIcBIcPIcHUcBUcPUcHEcBEcPEcHOcBO",
    "cPOcMAcMIcMUcMEcMOcSMALL YAcYAcSMALL YUcYUcSMALL YOcYOcRAcRIcRUcREcROcSMALL WAcWAcWIcWEcWOcN",
    "cVUcSMALL KAdKE@3099aCOMBINING KATAKANA-HIRAGANA VOICED SOUND MARKdSEMI-VOICED SOUND MARK",
    "aKATAKANA-HIRAGANA VOICED SOUND MARKcSEMI-VOICED SOUND MARKaHIRAGANA ITERATION MARK",
    "bVOICED ITERATION MARKbDIGRAPH YORIaKATAKANA-HIRAGANA DOUBLE HYPHENaKATAKANA LETTER SMALL AcA",
    "cSMALL IcIcSMALL UcUcSMALL EcEcSMALL OcOcKAcGAcKIcGIcKUcGUcKEcGEcKOcGOcSAcZAcSIcZIcSUcZUcSE",
    "cZEcSOcZOcTAcDAcTIcDIcSMALL TUcTUcDUcTEcDEcTOcDOcNAcNIcNUcNEcNOcHAcBAcPAcHIcBIcPIcHUcBUcPUcHE",
    "cBEcPEcHOcBOcPOcMAcMIcMUcMEcMOcSMALL YAcYAcSMALL YUcYUcSMALL YOcYOcRAcRIcRUcREcROcSMALL WAcWA",
    "cWIcWEcWOcNcVUcSMALL KAdKEcVAcVIcVEcVObMIDDLE DOTaKATAKANA-HIRAGANA PROLONGED SOUND MARK",
    "aKATAKANA ITERATION MARKbVOICED ITERATION MARKbDIGRAPH KOTO@3105aBOPOMOFO LETTER BcPcMcFcDcT",
    "cNcLcGcKcHcJcQcXcZHcCHcSHcRcZcCcScAcOcEcEHcAIcEIcAUcOUcANcENcANGcENGcERcIcUcIUcVcNGcGNcIH",
    "cO WITH DOT ABOVEcNN@3131aHANGUL LETTER KIYEOKcSSANGKIYEOKcKIYEOK-SIOScNIEUNcNIEUN-CIEUC",
    "dHIEUHcTIKEUTcSSANGTIKEUTcRIEULcRIEUL-KIYEOKdMIEUMdPIEUPdSIOSdTHIEUTHdPHIEUPHdHIEUHcMIEUM",
    "cPIEUPcSSANGPIEUPcPIEUP-SIOScSIOScSSANGSIOScIEUNGcCIEUCcSSANGCIEUCcCHIEUCHcKHIEUKHcTHIEUTH",
    "cPHIEUPHcHIEUHcAcAEcYAcYAEcEOcEcYEOcYEcOcWAcWAEcOEcYOcUcWEOcWEcWIcYUcEUcYIcIbFILLER",
    "bLETTER SSANGNIEUNcNIEUN-TIKEUTdSIOSdPANSIOScRIEUL-KIYEOK-SIOSdTIKEUTdPIEUP-SIOSdPANSIOS",
    "dYEORINHIEUHcMIEUM-PIEUPdSIOSdPANSIOScKAPYEOUNMIEUMcPIEUP-KIYEOKdTIKEUTdSIOS-KIYEOKeTIKEUT",
    "dCIEUCdTHIEUTHcKAPYEOUNPIEUPcKAPYEOUNSSANGPIEUPcSIOS-KIYEOKdNIEUNdTIKEUTdPIEUPdCIEUCcPANSIOS",
    "cSSANGIEUNGcYESIEUNGcYESIEUNG-SIOSdPANSIOScKAPYEOUNPHIEUPHcSSANGHIEUHcYEORINHIEUHcYO-YAdYAEdI",
    "cYU-YEOdYEdIcARAEAcARAEAE@3190aIDEOGRAPHIC ANNOTATION LINKING MARKcREVERSE ~cONE ~cTWO ~",
    "cTHREE ~cFOUR ~cTOP ~cMIDDLE ~cBOTTOM ~cFIRST ~cSECOND ~cTHIRD ~cFOURTH ~cHEAVEN ~cEARTH ~",
    "cMAN ~aBOPOMOFO LETTER BUcZIcJIcGUcEEcENNcOOcONNcIRcANNcINNcUNNcIMcNGGcAINNcAUNNcAMcOMcONG",
    "cINNNbFINAL LETTER PdTdKdHbLETTER GHcLHcZYbFINAL LETTER GbLETTER GWcKWcOEcAHaCJK STROKE TcWG",
    "cXGcBXGcSWcHZZcHZGcHPcHZWGcSZWGcHZTcHZZPcHPWGcHZWcHZZZcNcHcScPcSPcDcHZcHGcSZcSWZcSTcSGcPDcPZ",
    "cTNcSZZcSWGcHXWGcHZZZGcPGcQ@31F0aKATAKANA LETTER SMALL KUdSIdSUdTOdNUdHAdHIdHUdHEdHOdMUdRAdRI",
    "dRUdREdROaPARENTHESIZED HANGUL KIYEOKcNIEUNcTIKEUTcRIEULcMIEUMcPIEUPcSIOScIEUNGcCIEUCcCHIEUCH",
    "cKHIEUKHcTHIEUTHcPHIEUPHcHIEUHcKIYEOK AcNIEUN AcTIKEUT AcRIEUL AcMIEUM AcPIEUP AcSIOS A",
    "cIEUNG AcCIEUC AcCHIEUCH AcKHIEUKH AcTHIEUTH AcPHIEUPH AcHIEUH AcCIEUC U",
    "bKOREAN CHARACTER OJEONdO HU@3220bIDEOGRAPH ONEcTWOcTHREEcFOURcFIVEcSIXcSEVENcEIGHTcNINEcTEN",
    "cMOONcFIREcWATERcWOODcMETALcEARTHcSUNcSTOCKcHAVEcSOCIETYcNAMEcSPECIALcFINANCIAL",
    "cCONGRATULATIONcLABORcREPRESENTcCALLcSTUDYcSUPERVISEcENTERPRISEcRESOURCEcALLIANCEcFESTIVAL",
    "cRESTcSELFcREACHaCIRCLED IDEOGRAPH QUESTIONcKINDERGARTENcSCHOOLcKOTO",
    "bNUMBER TEN ON BLACK SQUAREcTWENTY ~cTHIRTY ~cFORTY ~cFIFTY ~cSIXTY ~cSEVENTY ~cEIGHTY ~",
    "aPARTNERSHIP SIGNaCIRCLED NUMBER TWENTY ONEdTWOdTHREEdFOURdFIVEdSIXdSEVENdEIGHTdNINEcTHIRTY",
    "cTHIRTY ONEdTWOdTHREEdFOURdFIVEbHANGUL KIYEOKcNIEUNcTIKEUTcRIEULcMIEUMcPIEUPcSIOScIEUNGcCIEUC",
    "cCHIEUCHcKHIEUKHcTHIEUTHcPHIEUPHcHIEUHcKIYEOK AcNIEUN AcTIKEUT AcRIEUL AcMIEUM AcPIEUP A",
    "cSIOS AcIEUNG AcCIEUC AcCHIEUCH AcKHIEUKH AcTHIEUTH AcPHIEUPH AcHIEUH A",
    "bKOREAN CHARACTER CHAMKOdJUEUIbHANGUL IEUNG UaKOREAN STANDARD SYMBOLaCIRCLED IDEOGRAPH ONE",
    "cTWOcTHREEcFOURcFIVEcSIXcSEVENcEIGHTcNINEcTENcMOONcFIREcWATERcWOODcMETALcEARTHcSUNcSTOCKcHAVE",
    "cSOCIETYcNAMEcSPECIALcFINANCIALcCONGRATULATIONcLABORcSECRETcMALEcFEMALEcSUITABLEcEXCELLENT",
    "cPRINTcATTENTIONcITEMcRESTcCOPYcCORRECTcHIGHcCENTREcLOWcLEFTcRIGHTcMEDICINEcRELIGIONcSTUDY",
    "cSUPERVISEcENTERPRISEcRESOURCEcALLIANCEcNIGHTbNUMBER THIRTY SIXdSEVENdEIGHTdNINEcFORTY",
    "cFORTY ONEdTWOdTHREEdFOURdFIVEdSIXdSEVENdEIGHTdNINEcFIFTY",
    "aIDEOGRAPHIC TELEGRAPH SYMBOL FOR JANUARYeFEBRUARYeMARCHeAPRILeMAYeJUNEeJULYeAUGUSTeSEPTEMBER",
    "eOCTOBEReNOVEMBEReDECEMBERaSQUARE HGbERGbEVaLIMITED LIABILITY SIGNaCIRCLED KATAKANA AcIcUcEcO",
    "cKAcKIcKUcKEcKOcSAcSIcSUcSEcSOcTAcTIcTUcTEcTOcNAcNIcNUcNEcNOcHAcHIcHUcHEcHOcMAcMIcMUcMEcMOcYA",
    "cYUcYOcRAcRIcRUcREcROcWAcWIcWEcWOaSQUARE ERA NAME REIWAbAPAATObARUHUAbANPEAbAARUbININGUbINTI",
    "bUONbESUKUUDObEEKAAbONSUbOOMUbKAIRIbKARATTObKARORIIbGARONbGANMAbGIGAbGINIIbKYURIIbGIRUDAA",
    "bKIRObKIROGURAMUbKIROMEETORUbKIROWATTObGURAMUbGURAMUTONbKURUZEIRObKUROONEbKEESUbKORUNAbKOOPO",
    "bSAIKURUbSANTIIMUbSIRINGUbSENTIbSENTObDAASUbDESIbDORUbTONbNANObNOTTObHAITUbPAASENTObPAATU",
    "bBAARERUbPIASUTORUbPIKURUbPIKObBIRUbHUARADDObHUIITObBUSSYERUbHURANbHEKUTAARUbPESObPENIHI",
    "bHERUTUbPENSUbPEEZIbBEETAbPOINTObBORUTObHONbPONDObHOORUbHOONbMAIKURObMAIRUbMAHHAbMARUKU",
    "bMANSYONbMIKURONbMIRIbMIRIBAARUbMEGAbMEGATONbMEETORUbYAADObYAARUbYUANbRITTORUbRIRAbRUPII",
    "bRUUBURUbREMUbRENTOGENbWATTOaIDEOGRAPHIC TELEGRAPH SYMBOL FOR HOUR ZEROfONEfTWOfTHREEfFOUR",
    "fFIVEfSIXfSEVENfEIGHTfNINEfTENfELEVENfTWELVEfTHIRTEENfFOURTEENfFIFTEENfSIXTEENfSEVENTEEN",
    "fEIGHTEENfNINETEENfTWENTYfTWENTY-ONEgTWOgTHREEgFOURaSQUARE HPAbDAbAUbBARbOVbPCbDMbDM SQUARED",
    "cCUBEDbIUbERA NAME HEISEIdSYOUWAdTAISYOUdMEIZIbCORPORATIONbPA AMPSbNAbMU AbMAbKAbKBbMBbGBbCAL",
    "bKCALbPFbNFbMU FcGbMGbKGbHZbKHZbMHZbGHZbTHZbMU LbMLbDLbKLbFMbNMbMU MbMMbCMbKMbMM SQUAREDbCM ~",
    "bM ~bKM ~bMM CUBEDbCM ~bM ~bKM ~bM OVER SdS SQUAREDbPAbKPAbMPAbGPAbRADbRAD OVER SdS SQUARED",
    "bPSbNSbMU SbMSbPVbNVbMU VbMVbKVbMV MEGAbPWbNWbMU WbMWbKWbMW MEGAbK OHMbM ~bAMbBQbCCbCD",
    "bC OVER KGbCObDBbGYbHAbHPbINbKKbKM CAPITALbKTbLMbLNbLOGbLXbMB SMALLbMILbMOLbPHbPMbPPMbPRbSR",
    "bSVbWBbV OVER MbA ~aIDEOGRAPHIC TELEGRAPH SYMBOL FOR DAY ONEfTWOfTHREEfFOURfFIVEfSIXfSEVEN",
    "fEIGHTfNINEfTENfELEVENfTWELVEfTHIRTEENfFOURTEENfFIFTEENfSIXTEENfSEVENTEENfEIGHTEENfNINETEEN",
    "fTWENTYfTWENTY-ONEgTWOgTHREEgFOURgFIVEgSIXgSEVENgEIGHTgNINEfTHIRTYfTHIRTY-ONEaSQUARE GAL",
    "@4DC0aHEXAGRAM FOR THE CREATIVE HEAVENdRECEPTIVE EARTHcDIFFICULTY AT THE BEGINNING",
    "cYOUTHFUL FOLLYcWAITINGcCONFLICTcTHE ARMYcHOLDING TOGETHERcSMALL TAMINGcTREADINGcPEACE",
    "cSTANDSTILLcFELLOWSHIPcGREAT POSSESSIONcMODESTYcENTHUSIASMcFOLLOWINGcWORK ON THE DECAYED",
    "cAPPROACHcCONTEMPLATIONcBITING THROUGHcGRACEcSPLITTING APARTcRETURNcINNOCENCEcGREAT TAMING",
    "cMOUTH CORNERScGREAT PREPONDERANCEcTHE ABYSMAL WATERdCLINGING FIREcINFLUENCEcDURATIONcRETREAT",
    "cGREAT POWERcPROGRESScDARKENING OF THE LIGHTcTHE FAMILYcOPPOSITIONcOBSTRUCTIONcDELIVERANCE",
    "cDECREASEcINCREASEcBREAKTHROUGHcCOMING TO MEETcGATHERING TOGETHERcPUSHING UPWARDcOPPRESSION",
    "cTHE WELLcREVOLUTIONcTHE CAULDRONdAROUSING THUNDERdKEEPING STILL MOUNTAINcDEVELOPMENT",
    "cTHE MARRYING MAIDENcABUNDANCEcTHE WANDERERdGENTLE WINDdJOYOUS LAKEcDISPERSIONcLIMITATION",
    "cINNER TRUTHcSMALL PREPONDERANCEcAFTER COMPLETIONcBEFORE ~"]

end JsonExpr.Text.CharacterName
