/-!
The names of the characters from 10000 to 11FFF.
-/

namespace JsonExpr.Text.CharacterName

def from10000 : List String :=
  ["@10000aLINEAR B SYLLABLE B008 AdB038 EdB028 IdB061 OdB010 UdB001 DAdB045 DEdB007 DIdB014 DO",
    "dB051 DUdB057 JAdB046 JE@1000DdB036 JOdB065 JUdB077 KAdB044 KEdB067 KIdB070 KOdB081 KU",
    "dB080 MAdB013 MEdB073 MIdB015 MOdB023 MUdB006 NAdB024 NEdB030 NIdB052 NOdB055 NUdB003 PA",
    "dB072 PEdB039 PIdB011 POdB050 PUdB016 QAdB078 QEdB021 QIdB032 QO@10028dB060 RAdB027 RE",
    "dB053 RIdB002 ROdB026 RUdB031 SAdB009 SEdB041 SIdB012 SOdB058 SUdB059 TAdB004 TEdB037 TI",
    "dB005 TOdB069 TUdB054 WAdB075 WEdB040 WIdB042 WO@1003CdB017 ZAdB074 ZE@1003FdB020 ZOdB025 A2",
    "dB043 A3dB085 AUdB071 DWEdB090 DWOdB048 NWAdB029 PU2dB062 PTEdB076 RA2dB033 RA3dB068 RO2",
    "dB066 TA2dB087 TWEdB091 TWO@10050cSYMBOL B018dB019dB022dB034dB047dB049dB056dB063dB064dB079",
    "dB082dB083dB086dB089@10080cIDEOGRAM B100 MANdB102 WOMANdB104 DEERdB105 EQUIDdB105F MARE",
    "dB105M STALLIONdB106F EWEdB106M RAMdB107F SHE-GOATdB107M HE-~dB108F SOWdB108M BOARdB109F COW",
    "dB109M BULLdB120 WHEATdB121 BARLEYdB122 OLIVEdB123 SPICEdB125 CYPERUScMONOGRAM B127 KAPO",
    "dB128 KANAKOcIDEOGRAM B130 OILdB131 WINEdB132cMONOGRAM B133 AREPAdB135 MERI",
    "cIDEOGRAM B140 BRONZEdB141 GOLDdB142dB145 WOOLdB146dB150dB151 HORNdB152dB153dB154",
    "cMONOGRAM B156 TURO2cIDEOGRAM B157dB158dB159 CLOTHdB160dB161dB162 GARMENTdB163 ARMOURdB164",
    "dB165dB166dB167dB168dB169dB170dB171dB172dB173 MONTHdB174dB176 TREEdB177dB178dB179dB180dB181",
    "dB182dB183dB184dB185dB189dB190dB191 HELMETdB220 FOOTSTOOLdB225 BATHTUBdB230 SPEARdB231 ARROW",
    "dB232dB233 SWORDdB234dB236dB240 WHEELED CHARIOTdB241 CHARIOTdB242 CHARIOT FRAMEdB243 WHEEL",
    "dB245dB246cMONOGRAM B247 DIPTEcIDEOGRAM B248dB249dB251dB252dB253dB254 DARTdB255dB256dB257",
    "dB258dB259dVESSEL B155eB200eB201eB202eB203eB204eB205eB206eB207eB208eB209eB210eB211eB212eB213",
    "eB214eB215eB216eB217eB218eB219eB221eB222eB226eB227eB228eB229eB250eB305",
    "@10100aAEGEAN WORD SEPARATOR LINEdDOTbCHECK MARK@10107bNUMBER ONEcTWOcTHREEcFOURcFIVEcSIX",
    "cSEVENcEIGHTcNINEcTENcTWENTYcTHIRTYcFORTYcFIFTYcSIXTYcSEVENTYcEIGHTYcNINETYcONE HUNDREDcTWO ~",
    "cTHREE ~cFOUR ~cFIVE ~cSIX ~cSEVEN ~cEIGHT ~cNINE ~cONE THOUSANDcTWO ~cTHREE ~cFOUR ~cFIVE ~",
    "cSIX ~cSEVEN ~cEIGHT ~cNINE ~cTEN ~cTWENTY ~cTHIRTY ~cFORTY ~cFIFTY ~cSIXTY ~cSEVENTY ~",
    "cEIGHTY ~cNINETY ~@10137bWEIGHT BASE UNITcFIRST SUBUNITcSECOND ~cTHIRD ~cFOURTH ~",
    "bDRY MEASURE FIRST SUBUNITbLIQUID ~bMEASURE SECOND SUBUNITcTHIRD ~",
    "aGREEK ACROPHONIC ATTIC ONE QUARTEReHALFeDRACHMAdFIVEdFIFTYdFIVE HUNDREDeTHOUSANDdFIFTY ~",
    "dFIVE TALENTSdTEN ~dFIFTY ~dONE HUNDRED TALENTSdFIVE ~dONE THOUSAND ~dFIVE ~eSTATERSdTEN ~",
    "dFIFTY ~dONE HUNDRED STATERSdFIVE ~dONE THOUSAND ~dTEN ~dFIFTY ~dTEN MNAS",
    "cHERAEUM ONE PLETHRONcTHESPIAN ONEcHERMIONIAN ~cEPIDAUREAN TWOcTHESPIAN ~",
    "cCYRENAIC TWO DRACHMAScEPIDAUREAN ~cTROEZENIAN FIVEdTENdTEN ALTERNATE FORMcHERMIONIAN TEN",
    "cMESSENIAN ~cTHESPIAN ~dTHIRTYcTROEZENIAN FIFTYdFIFTY ALTERNATE FORMcHERMIONIAN FIFTY",
    "cTHESPIAN ~dONE HUNDREDdTHREE ~cEPIDAUREAN FIVE ~cTROEZENIAN ~cTHESPIAN ~cCARYSTIAN ~",
    "cNAXIAN ~cTHESPIAN ONE THOUSANDdFIVE ~cDELPHIC FIVE MNAScSTRATIAN FIFTY ~bONE HALF SIGN",
    "dSIGN ALTERNATE FORMbTWO THIRDS SIGNbTHREE QUARTERS ~bYEAR SIGNbTALENT ~bDRACHMA ~bOBOL ~",
    "bTWO OBOLS SIGNbTHREE ~bFOUR ~bFIVE ~bMETRETES SIGNbKYATHOS BASE SIGNbLITRA SIGNbOUNKIA ~",
    "bXESTES ~bARTABE ~bAROURA ~bGRAMMA ~bTRYBLION BASE SIGNbZERO SIGNbONE QUARTER SIGN",
    "bSINUSOID SIGNbINDICTION ~aNOMISMA SIGN@10190aROMAN SEXTANS SIGNbUNCIA ~bSEMUNCIA ~bSEXTULA ~",
    "bDIMIDIA SEXTULA SIGNbSILIQUA SIGNbDENARIUS ~bQUINARIUS ~bSESTERTIUS ~bDUPONDIUS ~bAS ~",
    "bCENTURIAL ~aASCIA SYMBOL@101A0aGREEK SYMBOL TAU RHO@101D0aPHAISTOS DISC SIGN PEDESTRIAN",
    "dPLUMED HEADdTATTOOED ~dCAPTIVEdCHILDdWOMANdHELMETdGAUNTLETdTIARAdARROWdBOWdSHIELDdCLUB",
    "dMANACLESdMATTOCKdSAWdLIDdBOOMERANGdCARPENTRY PLANEdDOLIUMdCOMBdSLINGdCOLUMNdBEEHIVEdSHIP",
    "dHORNdHIDEdBULLS LEGdCATdRAMdEAGLEdDOVEdTUNNYdBEEdPLANE TREEdVINEdPAPYRUSdROSETTEdLILY",
    "dOX BACKdFLUTEdGRATERdSTRAINERdSMALL AXEdWAVY BANDdCOMBINING OBLIQUE STROKE",
    "@10280aLYCIAN LETTER AcEcBcBHcGcDcIcWcZcTHcJcKcQcLcMcNcMMcNNcUcPcKKcRcScTcTTcANcENcHcX",
    "@102A0aCARIAN LETTER AcP2cDcLcUUUcRcLDcA2cQcBcMcOcD2cTcSHcSH2cScC-18cUcNNcXcNcTT2cPcSScIcE",
    "cUUUUcKcK2cNDcUUcGcG2cSTcST2cNGcIIcC-39cTTcUUU2cRRcMBcMB2cMB3cMB4cLD2cE2cUUU3",
    "@102E0aCOPTIC EPACT THOUSANDS MARKcDIGIT ONEdTWOdTHREEdFOURdFIVEdSIXdSEVENdEIGHTdNINE",
    "cNUMBER TENdTWENTYdTHIRTYdFORTYdFIFTYdSIXTYdSEVENTYdEIGHTYdNINETYdONE HUNDREDdTWO ~dTHREE ~",
    "dFOUR ~dFIVE ~dSIX ~dSEVEN ~dEIGHT ~dNINE ~@10300aOLD ITALIC LETTER AdBEdKEdDEdEdVEdZEdHEdTHE",
    "dIdKAdELdEMdENdESHdOdPEdSHEdKUdERdESdTEdUdEKSdPHEdKHEdEFdERSdCHEdIIdUUdESScNUMERAL ONEdFIVE",
    "dTENdFIFTY@1032DcLETTER YEdNORTHERN TSEdSOUTHERN ~aGOTHIC LETTER AHSAcBAIRKANcGIBAcDAGS",
    "cAIHVUScQAIRTHRAcIUJAcHAGLcTHIUTHcEIScKUSMAcLAGUScMANNAcNAUTHScJERcURUScPAIRTHRAcNINETYcRAIDA",
    "cSAUILcTEIWScWINJAcFAIHUcIGGWScHWAIRcOTHALcNINE HUNDRED@10350aOLD PERMIC LETTER ANdBURdGAI",
    "dDOIdEdZHOIdDZHOIdZATAdDZITAdIdKOKEdLEIdMENOEdNENOEdVOOIdPEEIdREIdSIIdTAIdUdCHERYdSHOOI",
    "dSHCHOOIdYRYdYERUdOdOOdEFdHAdTSIUdVERdYERdYERIdYATdIEdYUdYAdIAaCOMBINING OLD PERMIC LETTER AN",
    "eDOIeZATAeNENOEeSII@10380aUGARITIC LETTER ALPAcBETAcGAMLAcKHAcDELTAcHOcWOcZETAcHOTAcTETcYOD",
    "cKAFcSHINcLAMDAcMEMcDHALcNUNcZUcSAMKAcAINcPUcSADEcQOPAcRASHAcTHANNAcGHAINcTOcIcUcSSU",
    "@1039FbWORD DIVIDERaOLD PERSIAN SIGN AdIdUdKAdKUdGAdGUdXAdCAdJAdJIdTAdTUdDAdDIdDUdTHAdPAdBA",
    "dFAdNAdNUdMAdMIdMUdYAdVAdVIdRAdRUdLAdSAdZAdSHAdSSAdHA@103C8dAURAMAZDAAdAURAMAZDAA-2",
    "dAURAMAZDAAHAdXSHAAYATHIYAdDAHYAAUSHdDAHYAAUSH-2dBAGAdBUUMISHcWORD DIVIDERcNUMBER ONEdTWOdTEN",
    "dTWENTYdHUNDRED@10400aDESERET CAPITAL LETTER LONG IeEeAeAHeOeOOdSHORT IeEeAeAHeOeOOdAYdOWdWU",
    "dYEEdHdPEEdBEEdTEEdDEEdCHEEdJEEdKAYdGAYdEFdVEEdETHdTHEEdESdZEEdESHdZHEEdERdELdEMdENdENGdOIdEW",
    "bSMALL LETTER LONG IeEeAeAHeOeOOdSHORT IeEeAeAHeOeOOdAYdOWdWUdYEEdHdPEEdBEEdTEEdDEEdCHEEdJEE",
    "dKAYdGAYdEFdVEEdETHdTHEEdESdZEEdESHdZHEEdERdELdEMdENdENGdOIdEWaSHAVIAN LETTER PEEPcTOTcKICK",
    "cFEEcTHIGHcSOcSUREcCHURCHcYEAcHUNGcBIBcDEADcGAGcVOWcTHEYcZOOcMEASUREcJUDGEcWOEcHA-HAcLOLL",
    "cMIMEcIFcEGGcASHcADOcONcWOOLcOUTcAHcROARcNUNcEATcAGEcICEcUPcOAKcOOZEcOILcAWEcAREcORcAIRcERR",
    "cARRAYcEARcIANcYEWaOSMANYA LETTER ALEFcBAcTAcJAcXAcKHAcDEELcRAcSAcSHIINcDHAcCAYNcGAcFAcQAAF",
    "cKAAFcLAANcMIINcNUUNcWAWcHAcYAcAcEcIcOcUcAAcEEcOO@104A0bDIGIT ZEROcONEcTWOcTHREEcFOURcFIVE",
    "cSIXcSEVENcEIGHTcNINE@104B0aOSAGE CAPITAL LETTER AdAIdAINdAHdBRAdCHAdEHCHAdEdEINdHAdHYAdIdKA",
    "dEHKAdKYAdLAdMAdNAdOdOINdPAdEHPAdSAdSHAdTAdEHTAdTSAdEHTSAdTSHAdDHAdUdWAdKHAdGHAdZAdZHA",
    "@104D8bSMALL LETTER AdAIdAINdAHdBRAdCHAdEHCHAdEdEINdHAdHYAdIdKAdEHKAdKYAdLAdMAdNAdOdOINdPA",
    "dEHPAdSAdSHAdTAdEHTAdTSAdEHTSAdTSHAdDHAdUdWAdKHAdGHAdZAdZHA@10500aELBASAN LETTER AcBEcCEcCHE",
    "cDEcNDEcDHEcEIcEcFEcGEcGJEcHEcIcJEcKEcLEcLLEcMEcNEcNAcNJEcOcPEcQEcREcRREcSEcSHEcTEcTHEcUcVE",
    "cXEcYcZEcZHEcGHEcGHAMMAcKHE@10530aCAUCASIAN ALBANIAN LETTER ALTdBETdGIMdDATdEBdZARLdEYNdZHIL",
    "dTASdCHAdYOWDdZHAdIRBdSHAdLANdINYAdXEYNdDYANdCARdJHOXdKARdLYITdHEYTdQAYdAORdCHOYdCHIdCYAYdMAQ",
    "dQARdNOWCdDZYAYdSHAKdJAYNdONdTYAYdFAMdDZAYdCHATdPENdGHEYSdRATdSEYKdVEYZdTIWRdSHOYdIWNdCYAW",
    "dCAYNdYAYDdPIWRdKIW@1056FcCITATION MARKaVITHKUQI CAPITAL LETTER AdBBEdBEdCEdCHEdDEdDHEdEIdE",
    "dFEdGA@1057CdHAdHHAdIdIJEdJEdKAdLAdLLAdMEdNEdNJEdOdPEdQAdRE@1058CdSEdSHEdTEdTHEdUdVEdXE",
    "@10594dYdZE@10597bSMALL LETTER AdBBEdBEdCEdCHEdDEdDHEdEIdEdFEdGA@105A3dHAdHHAdIdIJEdJEdKAdLA",
    "dLLAdMEdNEdNJEdOdPEdQAdRE@105B3dSEdSHEdTEdTHEdUdVEdXE@105BBdYdZE@10600aLINEAR A SIGN AB001",
    "dAB002dAB003dAB004dAB005dAB006dAB007dAB008dAB009dAB010dAB011dAB013dAB016dAB017dAB020dAB021",
    "dAB021FdAB021MdAB022dAB022FdAB022MdAB023dAB023MdAB024dAB026dAB027dAB028dA028BdAB029dAB030",
    "dAB031dAB034dAB037dAB038dAB039dAB040dAB041dAB044dAB045dAB046dAB047dAB048dAB049dAB050dAB051",
    "dAB053dAB054dAB055dAB056dAB057dAB058dAB059dAB060dAB061dAB065dAB066dAB067dAB069dAB070dAB073",
    "dAB074dAB076dAB077dAB078dAB079dAB080dAB081dAB082dAB085dAB086dAB087dA100-102dAB118dAB120dA120B",
    "dAB122dAB123dAB131AdAB131BdA131CdAB164dAB171dAB180dAB188dAB191dA301dA302dA303dA304dA305dA306",
    "dA307dA308dA309AdA309BdA309CdA310dA311dA312dA313AdA313BdA313CdA314dA315dA316dA317dA318dA319",
    "dA320dA321dA322dA323dA324dA325dA326dA327dA328dA329dA330dA331dA332dA333dA334dA335dA336dA337",
    "dA338dA339dA340dA341dA342dA343dA344dA345dA346dA347dA348dA349dA350dA351dA352dA353dA354dA355",
    "dA356dA357dA358dA359dA360dA361dA362dA363dA364dA365dA366dA367dA368dA369dA370dA371dA400-VAS",
    "dA401-~dA402-~dA403-~dA404-~dA405-~dA406-~dA407-~dA408-~dA409-~dA410-~dA411-~dA412-~dA413-~",
    "dA414-~dA415-~dA416-~dA417-~dA418-~dA501dA502dA503dA504dA505dA506dA508dA509dA510dA511dA512",
    "dA513dA515dA516dA520dA521dA523dA524dA525dA526dA527dA528dA529dA530dA531dA532dA534dA535dA536",
    "dA537dA538dA539dA540dA541dA542dA545dA547dA548dA549dA550dA551dA552dA553dA554dA555dA556dA557",
    "dA559dA563dA564dA565dA566dA568dA569dA570dA571dA572dA573dA574dA575dA576dA577dA578dA579dA580",
    "dA581dA582dA583dA584dA585dA586dA587dA588dA589dA591dA592dA594dA595dA596dA598dA600dA601dA602",
    "dA603dA604dA606dA608dA609dA610dA611dA612dA613dA614dA615dA616dA617dA618dA619dA620dA621dA622",
    "dA623dA624dA626dA627dA628dA629dA634dA637dA638dA640dA642dA643dA644dA645dA646dA648dA649dA651",
    "dA652dA653dA654dA655dA656dA657dA658dA659dA660dA661dA662dA663dA664@10740dA701 AdA702 BdA703 D",
    "dA704 EdA705 FdA706 HdA707 JdA708 KdA709 LdA709-2 L2e3 L3e4 L4e6 L6dA710 WdA711 XdA712 Y",
    "dA713 OMEGAdA714 ABBdA715 BBdA717 DDdA726 EYYYdA732 JE@10760dA800dA801dA802dA803dA804dA805",
    "dA806dA807@10780aMODIFIER LETTER SMALL CAPITAL AAcSUPERSCRIPT TRIANGULAR COLON",
    "dHALF TRIANGULAR COLONcSMALL AEdCAPITAL BdB WITH HOOK@10787dDZ DIGRAPH",
    "eDIGRAPH WITH RETROFLEX HOOKgCURLdDEZH DIGRAPHdD WITH TAILfHOOKfHOOK AND TAILdREVERSED E",
    "dCLOSED REVERSED OPEN EdFENG DIGRAPHdRAMS HORNdCAPITAL GdG WITH HOOKdCAPITAL G WITH HOOK",
    "dH WITH STROKEdCAPITAL HdHENG WITH HOOKdDOTLESS J WITH STROKE AND HOOKdLS DIGRAPHdLZ ~",
    "dL WITH BELTdCAPITAL L WITH BELTdL WITH RETROFLEX HOOK AND BELTdLEZHdLEZH WITH RETROFLEX HOOK",
    "dTURNED YeY WITH BELTdO WITH STROKEdCAPITAL OEdCLOSED OMEGAdQdTURNED R WITH LONG LEG",
    "hLEG AND RETROFLEX HOOKdR WITH TAILfFISHHOOKdCAPITAL RdTC DIGRAPH WITH CURLdTS DIGRAPH",
    "eDIGRAPH WITH RETROFLEX HOOKdTESH DIGRAPHdT WITH RETROFLEX HOOKdV WITH RIGHT ~",
    "@107B2dCAPITAL YcGLOTTAL STOP WITH STROKEcREVERSED GLOTTAL STOP WITH STROKEcBILABIAL CLICK",
    "cDENTAL ~cLATERAL ~cALVEOLAR ~cRETROFLEX CLICK WITH RETROFLEX HOOKcSMALL S WITH CURL",
    "@10800aCYPRIOT SYLLABLE AcEcIcOcUcJA@10808cJO@1080AcKAcKEcKIcKOcKUcLAcLEcLIcLOcLUcMAcMEcMIcMO",
    "cMUcNAcNEcNIcNOcNUcPAcPEcPIcPOcPUcRAcREcRIcROcRUcSAcSEcSIcSOcSUcTAcTEcTIcTOcTUcWAcWEcWIcWO",
    "@10837cXAcXE@1083CcZA@1083FcZOaIMPERIAL ARAMAIC LETTER ALEPHdBETHdGIMELdDALETHdHEdWAWdZAYIN",
    "dHETHdTETHdYODHdKAPHdLAMEDHdMEMdNUNdSAMEKHdAYINdPEdSADHEdQOPHdRESHdSHINdTAW",
    "@10857cSECTION SIGNcNUMBER ONEdTWOdTHREEdTENdTWENTYdONE HUNDREDeTHOUSANDdTEN ~",
    "aPALMYRENE LETTER ALEPHcBETHcGIMELcDALETHcHEcWAWcZAYINcHETHcTETHcYODHcKAPHcLAMEDHcMEM",
    "cFINAL NUNcNUNcSAMEKHcAYINcPEcSADHEcQOPHcRESHcSHINcTAWbLEFT-POINTING FLEURONbRIGHT-~",
    "bNUMBER ONEcTWOcTHREEcFOURcFIVEcTENcTWENTYaNABATAEAN LETTER FINAL ALEPHcALEPHcFINAL BETHcBETH",
    "cGIMELcDALETHcFINAL HEcHEcWAWcZAYINcHETHcTETHcFINAL YODHcYODHcFINAL KAPHcKAPHcFINAL LAMEDH",
    "cLAMEDHcFINAL MEMcMEMcFINAL NUNcNUNcSAMEKHcAYINcPEcSADHEcQOPHcRESHcFINAL SHINcSHINcTAW",
    "@108A7bNUMBER ONEcTWOcTHREEcFOURbCRUCIFORM NUMBER FOURbNUMBER FIVEcTENcTWENTYcONE HUNDRED",
    "@108E0aHATRAN LETTER ALEPHcBETHcGIMELcDALETH-RESHcHEcWAWcZAYNcHETHcTETHcYODHcKAPHcLAMEDHcMEM",
    "cNUNcSAMEKHcAYNcPEcSADHEcQOPH@108F4cSHINcTAW@108FBbNUMBER ONEcFIVEcTENcTWENTYcONE HUNDRED",
    "aPHOENICIAN LETTER ALFcBETcGAMLcDELTcHEcWAUcZAIcHETcTETcYODcKAFcLAMDcMEMcNUNcSEMKcAINcPEcSADE",
    "cQOFcROSHcSHINcTAUbNUMBER ONEcTENcTWENTYcONE HUNDREDcTWOcTHREE@1091FbWORD SEPARATOR",
    "aLYDIAN LETTER AcBcGcDcEcVcIcYcKcLcMcNcOcRcSScTcUcFcQcScTTcANcENcLYcNNcC",
    "@1093FbTRIANGULAR MARK@10980aMEROITIC HIEROGLYPHIC LETTER AdEdIdOdYAdWAdBAdBA-2dPAdMAdNAdNA-2",
    "dNEdNE-2dRAdRA-2dLAdKHAdHHAdSAdSA-2dSEdKAdQAdTAdTA-2dTEdTE-2dTOdDAcSYMBOL VIDJdVIDJ-2",
    "bCURSIVE LETTER AdEdIdOdYAdWAdBAdPAdMAdNAdNEdRAdLAdKHAdHHAdSAdARCHAIC SAdSEdKAdQAdTAdTEdTOdDA",
    "@109BCcFRACTION ELEVEN TWELFTHSdONE HALFcLOGOGRAM RMTdIMNcNUMBER ONEdTWOdTHREEdFOURdFIVEdSIX",
    "dSEVENdEIGHTdNINEdTENdTWENTYdTHIRTYdFORTYdFIFTYdSIXTYdSEVENTY@109D2dONE HUNDREDdTWO ~dTHREE ~",
    "dFOUR ~dFIVE ~dSIX ~dSEVEN ~dEIGHT ~dNINE ~dONE THOUSANDdTWO ~dTHREE ~dFOUR ~dFIVE ~dSIX ~",
    "dSEVEN ~dEIGHT ~dNINE ~dTEN ~dTWENTY ~dTHIRTY ~dFORTY ~dFIFTY ~dSIXTY ~dSEVENTY ~dEIGHTY ~",
    "dNINETY ~dONE HUNDRED THOUSANDdTWO ~dTHREE ~dFOUR ~dFIVE ~dSIX ~dSEVEN ~dEIGHT ~dNINE ~",
    "cFRACTION ONE TWELFTHdTWO TWELFTHSdTHREE ~dFOUR ~dFIVE ~dSIX ~dSEVEN ~dEIGHT ~dNINE ~dTEN ~",
    "aKHAROSHTHI LETTER AbVOWEL SIGN IdUdVOCALIC R@10A05dEdO@10A0CcLENGTH MARK",
    "bSIGN DOUBLE RING BELOWcANUSVARAcVISARGAbLETTER KAcKHAcGAcGHA@10A15cCAcCHAcJA@10A19cNYAcTTA",
    "cTTHAcDDAcDDHAcNNAcTAcTHAcDAcDHAcNAcPAcPHAcBAcBHAcMAcYAcRAcLAcVAcSHAcSSAcSAcZAcHAcKKAcTTTHA",
    "cTTTAcVHA@10A38bSIGN BAR ABOVEcCAUDAcDOT BELOW@10A3FbVIRAMAbDIGIT ONEcTWOcTHREEcFOUR",
    "bNUMBER TENcTWENTYcONE HUNDREDdTHOUSANDbFRACTION ONE HALF@10A50bPUNCTUATION DOTcSMALL CIRCLE",
    "cCIRCLEcCRESCENT BARcMANGALAMcLOTUScDANDAcDOUBLE DANDAcLINES",
    "@10A60aOLD SOUTH ARABIAN LETTER HEeLAMEDHeHETHeMEMeQOPHeWAWeSHINeRESHeBETHeTAWeSATeKAPHeNUN",
    "eKHETHeSADHEeSAMEKHeFEeALEFeAYNeDHADHEeGIMELeDALETHeGHAYNeTETHeZAYNeDHALETHeYODHeTHAWeTHETH",
    "dNUMBER ONEeFIFTYdNUMERIC INDICATORbNORTH ARABIAN LETTER HEHeLAMeHAHeMEEMeQAFeWAWeES-2eREH",
    "eBEHeTEHeES-1eKAFeNOONeKHAHeSADeES-3eFEHeALEFeAINeDADeGEEMeDALeGHAINeTAHeZAINeTHALeYEHeTHEH",
    "eZAHdNUMBER ONEeTENeTWENTY@10AC0aMANICHAEAN LETTER ALEPHcBETHcBHETHcGIMELcGHIMELcDALETHcHE",
    "cWAWbSIGN UDbLETTER ZAYINcZHAYINcJAYINcJHAYINcHETHcTETHcYODHcKAPHcXAPHcKHAPHcLAMEDHcDHAMEDH",
    "cTHAMEDHcMEMcNUNcSAMEKHcAYINcAAYINcPEcFEcSADHEcQOPHcXOPHcQHOPHcRESHcSHINcSSHINcTAW",
    "bABBREVIATION MARK ABOVEdBELOW@10AEBbNUMBER ONEcFIVEcTENcTWENTYcONE HUNDREDbPUNCTUATION STAR",
    "cFLEURONcDOUBLE DOT WITHIN DOTcDOT WITHIN DOTcDOTcTWO DOTScLINE FILLER@10B00aAVESTAN LETTER A",
    "cAAcAOcAAOcANcAANcAEcAEEcEcEEcOcOOcIcIIcUcUUcKEcXEcXYEcXVEcGEcGGEcGHEcCEcJEcTEcTHEcDEcDHEcTTE",
    "cPEcFEcBEcBHEcNGEcNGYEcNGVEcNEcNYEcNNEcMEcHMEcYYEcYEcVEcREcLEcSEcZEcSHEcZHEcSHYEcSSHEcHE",
    "@10B39bABBREVIATION MARKaTINY TWO DOTS OVER ONE DOT PUNCTUATIONaSMALL ~aLARGE ~",
    "bONE DOT OVER TWO DOTS ~bTWO RINGS OVER ONE RING ~bONE RING OVER TWO RINGS ~",
    "aINSCRIPTIONAL PARTHIAN LETTER ALEPHdBETHdGIMELdDALETHdHEdWAWdZAYINdHETHdTETHdYODHdKAPH",
    "dLAMEDHdMEMdNUNdSAMEKHdAYINdPEdSADHEdQOPHdRESHdSHINdTAW@10B58cNUMBER ONEdTWOdTHREEdFOURdTEN",
    "dTWENTYdONE HUNDREDeTHOUSANDbPAHLAVI LETTER ALEPHdBETHdGIMELdDALETHdHEdWAW-AYIN-RESHdZAYIN",
    "dHETHdTETHdYODHdKAPHdLAMEDHdMEM-QOPHdNUNdSAMEKHdPEdSADHEdSHINdTAW@10B78cNUMBER ONEdTWOdTHREE",
    "dFOURdTENdTWENTYdONE HUNDREDeTHOUSANDaPSALTER PAHLAVI LETTER ALEPHdBETHdGIMELdDALETHdHE",
    "dWAW-AYIN-RESHdZAYINdHETHdYODHdKAPHdLAMEDHdMEM-QOPHdNUNdSAMEKHdPEdSADHEdSHINdTAW",
    "@10B99cSECTION MARKcTURNED SECTION MARKcFOUR DOTS WITH CROSSfDOT@10BA9cNUMBER ONEdTWOdTHREE",
    "dFOURdTENdTWENTYdONE HUNDRED@10C00aOLD TURKIC LETTER ORKHON AdYENISEI AeAEdORKHON IdYENISEI I",
    "eEdORKHON OeOEdYENISEI ~dORKHON ABdYENISEI ~dORKHON AEBdYENISEI ~dORKHON AGdYENISEI ~",
    "dORKHON AEGdYENISEI ~dORKHON ADdYENISEI ~dORKHON AEDeEZdYENISEI ~dORKHON AYdYENISEI ~",
    "dORKHON AEYdYENISEI ~dORKHON AEKdYENISEI ~dORKHON OEKdYENISEI ~dORKHON ALdYENISEI ~",
    "dORKHON AELeELTeEMeANeAENdYENISEI ~dORKHON ENTdYENISEI ~dORKHON ENCdYENISEI ~dORKHON ENY",
    "dYENISEI ~eANGdORKHON ENGdYENISEI AENGdORKHON EPeOPeICeECdYENISEI ~dORKHON AQdYENISEI ~",
    "dORKHON IQdYENISEI ~dORKHON OQdYENISEI ~dORKHON ARdYENISEI ~dORKHON AEReASeAESeASHdYENISEI ~",
    "dORKHON ESHdYENISEI ~dORKHON ATdYENISEI ~dORKHON AETdYENISEI ~dORKHON OTeBASH",
    "@10C80bHUNGARIAN CAPITAL LETTER AeAAeEBeAMBeECeENCeECSeEDeANDeEeCLOSE EeEEeEFeEGeEGYeEHeIeII",
    "eEJeEKeAKeUNKeELeELYeEMeENeENYeOeOOeNIKOLSBURG OEeRUDIMENTA ~eOEEeEPeEMPeEReSHORT EReESeESZ",
    "eETeENTeETYeECHeUeUUeNIKOLSBURG UEeRUDIMENTA ~eEVeEZeEZSeENT-SHAPED SIGNeUS",
    "@10CC0cSMALL LETTER AeAAeEBeAMBeECeENCeECSeEDeANDeEeCLOSE EeEEeEFeEGeEGYeEHeIeIIeEJeEKeAKeUNK",
    "eELeELYeEMeENeENYeOeOOeNIKOLSBURG OEeRUDIMENTA ~eOEEeEPeEMPeEReSHORT EReESeESZeETeENTeETYeECH",
    "eUeUUeNIKOLSBURG UEeRUDIMENTA ~eEVeEZeEZSeENT-SHAPED SIGNeUS@10CFAcNUMBER ONEdFIVEdTENdFIFTY",
    "dONE HUNDREDeTHOUSANDaHANIFI ROHINGYA LETTER AdBAdPAdTAdTTAdJAdCAdHAdKHAdFAdDAdDDAdRAdRRAdZA",
    "dSAdSHAdKAdGAdLAdMAdNAdWAdKINNA WAdYAdKINNA YAdNGAdNYAdVAcVOWEL AdIdUdEdOcMARK SAKIN",
    "dNA KHONNAcSIGN HARBAHAYdTAHALAdTANAdTASSI@10D30cDIGIT ZEROdONEdTWOdTHREEdFOURdFIVEdSIXdSEVEN",
    "dEIGHTdNINE@10E60aRUMI DIGIT ONEcTWOcTHREEcFOURcFIVEcSIXcSEVENcEIGHTcNINEbNUMBER TENcTWENTY",
    "cTHIRTYcFORTYcFIFTYcSIXTYcSEVENTYcEIGHTYcNINETYcONE HUNDREDcTWO ~cTHREE ~cFOUR ~cFIVE ~cSIX ~",
    "cSEVEN ~cEIGHT ~cNINE ~bFRACTION ONE HALFdQUARTERdTHIRDcTWO THIRDS@10E80aYEZIDI LETTER ELIF",
    "cBEcPEcPHEcTHEcSEcCIMcCHIMcCHHIMcHHAcXAcDALcZALcRAcRHAcZAcJAcSINcSHINcSADcDADcTAcZEcEYNcXHEYN",
    "cFAcVAcVA ALTERNATE FORMcQAFcKAFcKHAFcGAFcLAMcMIMcNUNcUMcWAWcOWcEWcHAYcYOTcET",
    "@10EABbCOMBINING HAMZA MARKcMADDA ~bHYPHENATION MARK@10EB0bLETTER LAM WITH DOT ABOVE",
    "cYOT WITH CIRCUMFLEX ~@10F00aOLD SOGDIAN LETTER ALEPHdFINAL ALEPHdBETHdFINAL BETHdGIMELdHE",
    "dFINAL HEdWAWdZAYINdHETHdYODHdKAPHdLAMEDHdMEMdNUNdFINAL NUNeNUN WITH VERTICAL TAILdSAMEKH",
    "dAYINdALTERNATE AYINdPEdSADHEdFINAL SADHEeSADHE WITH VERTICAL TAILdRESH-AYIN-DALETHdSHINdTAW",
    "dFINAL TAWeTAW WITH VERTICAL TAILcNUMBER ONEdTWOdTHREEdFOURdFIVEdTENdTWENTYdTHIRTY",
    "dONE HUNDREDcFRACTION ONE HALFcLIGATURE AYIN-DALETH@10F30aSOGDIAN LETTER ALEPHcBETHcGIMELcHE",
    "cWAWcZAYINcHETHcYODHcKAPHcLAMEDHcMEMcNUNcSAMEKHcAYINcPEcSADHEcRESH-AYINcSHINcTAWcFETHcLESH",
    "bINDEPENDENT SHINbCOMBINING DOT BELOWcTWO DOTS BELOWcDOT ABOVEcTWO DOTS ABOVEcCURVE ABOVE",
    "dBELOWcHOOK ABOVEdBELOWcLONG HOOK BELOWcRESH BELOWcSTROKE ~bNUMBER ONEcTENcTWENTYcONE HUNDRED",
    "bPUNCTUATION TWO VERTICAL BARSeBARS WITH DOTScCIRCLE WITH DOTcTWO CIRCLES WITH DOTS",
    "cHALF CIRCLE WITH DOT@10F70aOLD UYGHUR LETTER ALEPHdBETHdGIMEL-HETHdWAWdZAYINdFINAL HETHdYODH",
    "dKAPHdLAMEDHdMEMdNUNdSAMEKHdPEdSADHEdRESHdSHINdTAWdLESHcCOMBINING DOT ABOVEeBELOW",
    "dTWO DOTS ABOVEfBELOWcPUNCTUATION BARdTWO BARSeDOTSdFOUR ~@10FB0aCHORASMIAN LETTER ALEPH",
    "cSMALL ALEPHcBETHcGIMELcDALETHcHEcWAWcCURLED WAWcZAYINcHETHcYODHcKAPHcLAMEDHcMEMcNUNcSAMEKH",
    "cAYINcPEcRESHcSHINcTAWbNUMBER ONEcTWOcTHREEcFOURcTENcTWENTYcONE HUNDRED",
    "@10FE0aELYMAIC LETTER ALEPHcBETHcGIMELcDALETHcHEcWAWcZAYINcHETHcTETHcYODHcKAPHcLAMEDHcMEMcNUN",
    "cSAMEKHcAYINcPEcSADHEcQOPHcRESHcSHINcTAWbLIGATURE ZAYIN-YODH@11000aBRAHMI SIGN CANDRABINDU",
    "cANUSVARAcVISARGAcJIHVAMULIYAcUPADHMANIYAbLETTER AcAAcIcIIcUcUUcVOCALIC RdRRdLdLLcEcAIcOcAU",
    "cKAcKHAcGAcGHAcNGAcCAcCHAcJAcJHAcNYAcTTAcTTHAcDDAcDDHAcNNAcTAcTHAcDAcDHAcNAcPAcPHAcBAcBHAcMA",
    "cYAcRAcLAcVAcSHAcSSAcSAcHAcLLAcOLD TAMIL LLLAeRRAeNNNAbVOWEL SIGN AAdBHATTIPROLU AAdIdIIdUdUU",
    "dVOCALIC ReRReLeLLdEdAIdOdAUbVIRAMAbDANDAbDOUBLE DANDAbPUNCTUATION DOTcDOUBLE DOTcLINE",
    "cCRESCENT BARcLOTUS@11052bNUMBER ONEcTWOcTHREEcFOURcFIVEcSIXcSEVENcEIGHTcNINEcTENcTWENTY",
    "cTHIRTYcFORTYcFIFTYcSIXTYcSEVENTYcEIGHTYcNINETYcONE HUNDREDdTHOUSANDbDIGIT ZEROcONEcTWOcTHREE",
    "cFOURcFIVEcSIXcSEVENcEIGHTcNINEbSIGN OLD TAMIL VIRAMAbLETTER OLD TAMIL SHORT EfO",
    "bVOWEL SIGN OLD TAMIL SHORT EgObLETTER OLD TAMIL LLA@1107FbNUMBER JOINER",
    "aKAITHI SIGN CANDRABINDUcANUSVARAcVISARGAbLETTER AcAAcIcIIcUcUUcEcAIcOcAUcKAcKHAcGAcGHAcNGA",
    "cCAcCHAcJAcJHAcNYAcTTAcTTHAcDDAcDDDHAcDDHAcRHAcNNAcTAcTHAcDAcDHAcNAcPAcPHAcBAcBHAcMAcYAcRAcLA",
    "cVAcSHAcSSAcSAcHAbVOWEL SIGN AAdIdIIdUdUUdEdAIdOdAUbSIGN VIRAMAcNUKTAbABBREVIATION SIGN",
    "bENUMERATION ~bNUMBER ~bSECTION MARKbDOUBLE SECTION MARKbDANDAbDOUBLE DANDA",
    "bVOWEL SIGN VOCALIC R@110CDbNUMBER SIGN ABOVE@110D0aSORA SOMPENG LETTER SAHdTAHdBAHdCAHdDAH",
    "dGAHdMAHdNGAHdLAHdNAHdVAHdPAHdYAHdRAHdHAHdKAHdJAHdNYAHdAHdEEHdIHdUHdOHdEHdMAE",
    "@110F0cDIGIT ZEROdONEdTWOdTHREEdFOURdFIVEdSIXdSEVENdEIGHTdNINE@11100aCHAKMA SIGN CANDRABINDU",
    "cANUSVARAcVISARGAbLETTER AAcIcUcEcKAAcKHAAcGAAcGHAAcNGAAcCAAcCHAAcJAAcJHAAcNYAAcTTAAcTTHAA",
    "cDDAAcDDHAAcNNAAcTAAcTHAAcDAAcDHAAcNAAcPAAcPHAAcBAAcBHAAcMAAcYYAAcYAAcRAAcLAAcWAAcSAAcHAA",
    "bVOWEL SIGN AdIdIIdUdUUdEdAIdOdAUdOIbO MARKbAU ~bVIRAMAbMAAYYAA@11136bDIGIT ZEROcONEcTWO",
    "cTHREEcFOURcFIVEcSIXcSEVENcEIGHTcNINEbSECTION MARKbDANDAbDOUBLE DANDAbQUESTION MARK",
    "bLETTER LHAAbVOWEL SIGN AAdEIbLETTER VAA@11150aMAHAJANI LETTER AcIcUcEcOcKAcKHAcGAcGHAcCAcCHA",
    "cJAcJHAcNYAcTTAcTTHAcDDAcDDHAcNNAcTAcTHAcDAcDHAcNAcPAcPHAcBAcBHAcMAcRAcLAcVAcSAcHAcRRA",
    "bSIGN NUKTAbABBREVIATION SIGNbSECTION MARKbLIGATURE SHRI@11180aSHARADA SIGN CANDRABINDU",
    "cANUSVARAcVISARGAbLETTER AcAAcIcIIcUcUUcVOCALIC RdRRdLdLLcEcAIcOcAUcKAcKHAcGAcGHAcNGAcCAcCHA",
    "cJAcJHAcNYAcTTAcTTHAcDDAcDDHAcNNAcTAcTHAcDAcDHAcNAcPAcPHAcBAcBHAcMAcYAcRAcLAcLLAcVAcSHAcSSA",
    "cSAcHAbVOWEL SIGN AAdIdIIdUdUUdVOCALIC ReRReLeLLdEdAIdOdAUbSIGN VIRAMAcAVAGRAHAcJIHVAMULIYA",
    "cUPADHMANIYAbOMbDANDAbDOUBLE DANDAbABBREVIATION SIGNbSEPARATORbSANDHI MARKbSIGN NUKTA",
    "bVOWEL MODIFIER MARKbEXTRA SHORT VOWEL MARKbSUTRA MARKbVOWEL SIGN PRISHTHAMATRA E",
    "bSIGN INVERTED CANDRABINDUbDIGIT ZEROcONEcTWOcTHREEcFOURcFIVEcSIXcSEVENcEIGHTcNINEbEKAM",
    "bSIGN SIDDHAMbHEADSTROKEbCONTINUATION SIGNbSECTION MARK-1d2@111E1aSINHALA ARCHAIC DIGIT ONE",
    "dTWOdTHREEdFOURdFIVEdSIXdSEVENdEIGHTdNINEcNUMBER TENdTWENTYdTHIRTYdFORTYdFIFTYdSIXTYdSEVENTY",
    "dEIGHTYdNINETYdONE HUNDREDeTHOUSAND@11200aKHOJKI LETTER AcAAcIcUcEcAIcOcAUcKAcKHAcGAcGGAcGHA",
    "cNGAcCAcCHAcJAcJJA@11213cNYAcTTAcTTHAcDDAcDDHAcNNAcTAcTHAcDAcDDDAcDHAcNAcPAcPHAcBAcBBAcBHAcMA",
    "cYAcRAcLAcVAcSAcHAcLLAbVOWEL SIGN AAdIdIIdUdEdAIdOdAUbSIGN ANUSVARAcVIRAMAcNUKTAcSHADDAbDANDA",
    "bDOUBLE DANDAbWORD SEPARATORbSECTION MARKbDOUBLE SECTION MARKbABBREVIATION SIGNbSIGN SUKUN",
    "@11280aMULTANI LETTER AcIcUcEcKAcKHAcGA@11288cGHA@1128AcCAcCHAcJAcJJA@1128FcNYAcTTAcTTHAcDDA",
    "cDDDAcDDHAcNNAcTAcTHAcDAcDHAcNAcPAcPHAcBA@1129FcBHAcMAcYAcRAcLAcVAcSAcHAcRRAcRHAbSECTION MARK",
    "@112B0aKHUDAWADI LETTER AcAAcIcIIcUcUUcEcAIcOcAUcKAcKHAcGAcGGAcGHAcNGAcCAcCHAcJAcJJAcJHAcNYA",
    "cTTAcTTHAcDDAcDDDAcRRAcDDHAcNNAcTAcTHAcDAcDHAcNAcPAcPHAcBAcBBAcBHAcMAcYAcRAcLAcVAcSHAcSAcHA",
    "bSIGN ANUSVARAbVOWEL SIGN AAdIdIIdUdUUdEdAIdOdAUbSIGN NUKTAcVIRAMA@112F0bDIGIT ZEROcONEcTWO",
    "cTHREEcFOURcFIVEcSIXcSEVENcEIGHTcNINE@11300aGRANTHA SIGN COMBINING ANUSVARA ABOVEcCANDRABINDU",
    "cANUSVARAcVISARGA@11305bLETTER AcAAcIcIIcUcUUcVOCALIC RdL@1130FcEEcAI@11313cOOcAUcKAcKHAcGA",
    "cGHAcNGAcCAcCHAcJAcJHAcNYAcTTAcTTHAcDDAcDDHAcNNAcTAcTHAcDAcDHAcNA@1132AcPAcPHAcBAcBHAcMAcYA",
    "cRA@11332cLAcLLA@11335cVAcSHAcSSAcSAcHA@1133BaCOMBINING BINDU BELOWaGRANTHA SIGN NUKTA",
    "cAVAGRAHAbVOWEL SIGN AAdIdIIdUdUUdVOCALIC ReRR@11347dEEdAI@1134BdOOdAUbSIGN VIRAMA@11350bOM",
    "@11357bAU LENGTH MARK@1135DbSIGN PLUTAbLETTER VEDIC ANUSVARAdDOUBLE ANUSVARAcVOCALIC RRdLL",
    "bVOWEL SIGN VOCALIC LeLL@11366aCOMBINING GRANTHA DIGIT ZEROdONEdTWOdTHREEdFOURdFIVEdSIX",
    "@11370cLETTER AdKAdNAdVIdPA@11400aNEWA LETTER AcAAcIcIIcUcUUcVOCALIC RdRRdLdLLcEcAIcOcAUcKA",
    "cKHAcGAcGHAcNGAcNGHAcCAcCHAcJAcJHAcNYAcNYHAcTTAcTTHAcDDAcDDHAcNNAcTAcTHAcDAcDHAcNAcNHAcPAcPHA",
    "cBAcBHAcMAcMHAcYAcRAcRHAcLAcLHAcWAcSHAcSSAcSAcHAbVOWEL SIGN AAdIdIIdUdUUdVOCALIC ReRReLeLLdE",
    "dAIdOdAUbSIGN VIRAMAcCANDRABINDUcANUSVARAcVISARGAcNUKTAcAVAGRAHAcFINAL ANUSVARAbOMbSIDDHI",
    "bDANDAbDOUBLE DANDAbCOMMAbGAP FILLERbABBREVIATION SIGNbDIGIT ZEROcONEcTWOcTHREEcFOURcFIVEcSIX",
    "cSEVENcEIGHTcNINEbDOUBLE COMMAbPLACEHOLDER MARK@1145DbINSERTION SIGNbSANDHI MARK",
    "bLETTER VEDIC ANUSVARAbSIGN JIHVAMULIYAcUPADHMANIYA@11480aTIRHUTA ANJIbLETTER AcAAcIcIIcUcUU",
    "cVOCALIC RdRRdLdLLcEcAIcOcAUcKAcKHAcGAcGHAcNGAcCAcCHAcJAcJHAcNYAcTTAcTTHAcDDAcDDHAcNNAcTAcTHA",
    "cDAcDHAcNAcPAcPHAcBAcBHAcMAcYAcRAcLAcVAcSHAcSSAcSAcHAbVOWEL SIGN AAdIdIIdUdUUdVOCALIC ReRReL",
    "eLLdEdSHORT EdAIdOdSHORT OdAUbSIGN CANDRABINDUcANUSVARAcVISARGAcVIRAMAcNUKTAcAVAGRAHAbGVANG",
    "bABBREVIATION SIGNbOM@114D0bDIGIT ZEROcONEcTWOcTHREEcFOURcFIVEcSIXcSEVENcEIGHTcNINE",
    "@11580aSIDDHAM LETTER AcAAcIcIIcUcUUcVOCALIC RdRRdLdLLcEcAIcOcAUcKAcKHAcGAcGHAcNGAcCAcCHAcJA",
    "cJHAcNYAcTTAcTTHAcDDAcDDHAcNNAcTAcTHAcDAcDHAcNAcPAcPHAcBAcBHAcMAcYAcRAcLAcVAcSHAcSSAcSAcHA",
    "bVOWEL SIGN AAdIdIIdUdUUdVOCALIC ReRR@115B8dEdAIdOdAUbSIGN CANDRABINDUcANUSVARAcVISARGA",
    "cVIRAMAcNUKTAcSIDDHAMbDANDAbDOUBLE DANDAbSEPARATOR DOTcBARbREPETITION MARK-1d2d3",
    "bEND OF TEXT MARKbSECTION MARK WITH TRIDENT AND U-SHAPED ORNAMENTSgDOTTED CRESCENTSeRAYS ~",
    "hDOUBLE CRESCENTShTRIPLE ~dDOUBLE RINGeRING WITH RAYSdWITH DOUBLE CRESCENTSeTRIPLE ~",
    "eQUADRUPLE ~eSEPTUPLE ~eCIRCLES AND RAYSgTWO ENCLOSURESgFOUR ~",
    "bLETTER THREE-CIRCLE ALTERNATE IcTWO-~fIIcALTERNATE UbVOWEL SIGN ALTERNATE UeUU",
    "@11600aMODI LETTER AcAAcIcIIcUcUUcVOCALIC RdRRdLdLLcEcAIcOcAUcKAcKHAcGAcGHAcNGAcCAcCHAcJAcJHA",
    "cNYAcTTAcTTHAcDDAcDDHAcNNAcTAcTHAcDAcDHAcNAcPAcPHAcBAcBHAcMAcYAcRAcLAcVAcSHAcSSAcSAcHAcLLA",
    "bVOWEL SIGN AAdIdIIdUdUUdVOCALIC ReRReLeLLdEdAIdOdAUbSIGN ANUSVARAcVISARGAcVIRAMAcARDHACANDRA",
    "bDANDAbDOUBLE DANDAbABBREVIATION SIGNbSIGN HUVA@11650bDIGIT ZEROcONEcTWOcTHREEcFOURcFIVEcSIX",
    "cSEVENcEIGHTcNINE@11660aMONGOLIAN BIRGA WITH ORNAMENTbROTATED BIRGA",
    "bDOUBLE BIRGA WITH ORNAMENTbTRIPLE ~bBIRGA WITH DOUBLE ~bROTATED BIRGA WITH ~eDOUBLE ORNAMENT",
    "bINVERTED BIRGAcBIRGA WITH DOUBLE ORNAMENTbSWIRL BIRGAcBIRGA WITH ORNAMENTeDOUBLE ORNAMENT",
    "bTURNED SWIRL BIRGA WITH DOUBLE ORNAMENT@11680aTAKRI LETTER AcAAcIcIIcUcUUcEcAIcOcAUcKAcKHA",
    "cGAcGHAcNGAcCAcCHAcJAcJHAcNYAcTTAcTTHAcDDAcDDHAcNNAcTAcTHAcDAcDHAcNAcPAcPHAcBAcBHAcMAcYAcRA",
    "cLAcVAcSHAcSAcHAcRRAbSIGN ANUSVARAcVISARGAbVOWEL SIGN AAdIdIIdUdUUdEdAIdOdAUbSIGN VIRAMA",
    "cNUKTAbLETTER ARCHAIC KHAbABBREVIATION SIGN@116C0bDIGIT ZEROcONEcTWOcTHREEcFOURcFIVEcSIX",
    "cSEVENcEIGHTcNINE@11700aAHOM LETTER KAcKHAcNGAcNAcTAcALTERNATE TAcPAcPHAcBAcMAcJAcCHAcTHAcRA",
    "cLAcSAcNYAcHAcAcDAcDHAcGAcALTERNATE GAcGHAcBHAcJHAcALTERNATE BA",
    "@1171DbCONSONANT SIGN MEDIAL LAeRAeLIGATING RAbVOWEL SIGN AdAAdIdIIdUdUUdEdAWdOdAIdAM",
    "bSIGN KILLER@11730bDIGIT ZEROcONEcTWOcTHREEcFOURcFIVEcSIXcSEVENcEIGHTcNINEbNUMBER TENcTWENTY",
    "bSIGN SMALL SECTIONcSECTIONcRULAIbSYMBOL VIbLETTER CAcTTAcTTHAcDDAcDDHAcNNAcLLA",
    "@11800aDOGRA LETTER AcAAcIcIIcUcUUcEcAIcOcAUcKAcKHAcGAcGHAcNGAcCAcCHAcJAcJHAcNYAcTTAcTTHAcDDA",
    "cDDHAcNNAcTAcTHAcDAcDHAcNAcPAcPHAcBAcBHAcMAcYAcRAcLAcVAcSHAcSSAcSAcHAcRRAbVOWEL SIGN AAdIdII",
    "dUdUUdVOCALIC ReRRdEdAIdOdAUbSIGN ANUSVARAcVISARGAcVIRAMAcNUKTAbABBREVIATION SIGN",
    "@118A0aWARANG CITI CAPITAL LETTER NGAAeAeWIeYUeYAeYOeIIeUUeEeOeANGeGAeKOeENYeYUJeUCeENNeODD",
    "eTTEeNUNGeDAeATeAMeBUePUeHIYOeHOLOeHORReHAReSSUUeSIIeVIYOcSMALL LETTER NGAAeAeWIeYUeYAeYOeII",
    "eUUeEeOeANGeGAeKOeENYeYUJeUCeENNeODDeTTEeNUNGeDAeATeAMeBUePUeHIYOeHOLOeHORReHAReSSUUeSIIeVIYO",
    "cDIGIT ZEROdONEdTWOdTHREEdFOURdFIVEdSIXdSEVENdEIGHTdNINEcNUMBER TENdTWENTYdTHIRTYdFORTYdFIFTY",
    "dSIXTYdSEVENTYdEIGHTYdNINETY@118FFcOMaDIVES AKURU LETTER AdAAdIdIIdUdUUdE@11909dO@1190CdKA",
    "dKHAdGAdGHAdNGAdCAdCHAdJA@11915dNYAdTTA@11918dDDAdDDHAdNNAdTAdTHAdDAdDHAdNAdPAdPHAdBAdBHAdMA",
    "dYAdYYAdRAdLAdVAdSHAdSSAdSAdHAdLLAdZAcVOWEL SIGN AAeIeIIeUeUUeE@11937eAIeO",
    "@1193BcSIGN ANUSVARAdCANDRABINDUdHALANTAcVIRAMAcPREFIXED NASAL SIGNcMEDIAL YAcINITIAL RA",
    "cMEDIAL ~cSIGN NUKTAcDOUBLE DANDAcGAP FILLERcEND OF TEXT MARK@11950cDIGIT ZEROdONEdTWOdTHREE",
    "dFOURdFIVEdSIXdSEVENdEIGHTdNINE@119A0aNANDINAGARI LETTER AcAAcIcIIcUcUUcVOCALIC RdRR@119AAcE",
    "cAIcOcAUcKAcKHAcGAcGHAcNGAcCAcCHAcJAcJHAcNYAcTTAcTTHAcDDAcDDHAcNNAcTAcTHAcDAcDHAcNAcPAcPHAcBA",
    "cBHAcMAcYAcRAcLAcVAcSHAcSSAcSAcHAcLLAcRRAbVOWEL SIGN AAdIdIIdUdUUdVOCALIC ReRR@119DAdEdAIdO",
    "dAUbSIGN ANUSVARAcVISARGAcVIRAMAcAVAGRAHAcSIDDHAMbHEADSTROKEbVOWEL SIGN PRISHTHAMATRA E",
    "@11A00aZANABAZAR SQUARE LETTER AcVOWEL SIGN IeUEeUeEeOEeOeAIeAUeREVERSED IdLENGTH MARK",
    "cLETTER KAdKHAdGAdGHAdNGAdCAdCHAdJAdNYAdTTAdTTHAdDDAdDDHAdNNAdTAdTHAdDAdDHAdNAdPAdPHAdBAdBHA",
    "dMAdTSAdTSHAdDZAdDZHAdZHAdZAd-AdYAdRAdLAdVAdSHAdSSAdSAdHAdKSSAcFINAL CONSONANT MARK",
    "cSIGN VIRAMAdCANDRABINDUdCANDRABINDU WITH ORNAMENTdCANDRA ~dANUSVARAdVISARGA",
    "cCLUSTER-INITIAL LETTER RAdFINAL LETTER YAfRAfLAfVAcINITIAL HEAD MARKcCLOSING ~cMARK TSHEG",
    "dSHADdDOUBLE SHADdLONG TSHEGcINITIAL DOUBLE-LINED HEAD MARKcCLOSING ~cSUBJOINER",
    "@11A50aSOYOMBO LETTER AbVOWEL SIGN IdUEdUdEdOdOEdAIdAUdVOCALIC ReLcLENGTH MARKbLETTER KAcKHA",
    "cGAcGHAcNGAcCAcCHAcJAcJHAcNYAcTTAcTTHAcDDAcDDHAcNNAcTAcTHAcDAcDHAcNAcPAcPHAcBAcBHAcMAcTSA",
    "cTSHAcDZAcZHAcZAc-AcYAcRAcLAcVAcSHAcSSAcSAcHAcKSSAbSIGN JIHVAMULIYAcUPADHMANIYA",
    "bCLUSTER-INITIAL LETTER RAeLAeSHAeSAbFINAL CONSONANT SIGN GeKeNGeDeNeBeMeReLeSHeSe-A",
    "bSIGN ANUSVARAcVISARGAbGEMINATION MARKbSUBJOINERbMARK TSHEGcSHADcDOUBLE SHADcPLUTA",
    "bHEAD MARK WITH MOON AND SUN AND TRIPLE FLAMEiFLAMEgSUNbTERMINAL MARK-1d2",
    "@11AB0aCANADIAN SYLLABICS NATTILIK HIdHIIdHOdHOOdHAdHAAdSHRIdSHRIIdSHROdSHROOdSHRAdSHRAAcSPE",
    "cSPIcSPOcSPAaPAU CIN HAU LETTER PAeKAeLAeMAeDAeZAeVAeNGAeHAeGAeKHAeSAeBAeCAeTAeTHAeNAePHAeRA",
    "eFAeCHAeAeEeIeOeUeUAeIAeFINAL PfKfTfMfNfLfWfNGfYdRISING TONE LONGeTONEdSANDHI GLOTTAL STOP",
    "dRISING TONE LONG FINALfFINALdSANDHI GLOTTAL STOP FINALeTONE LONGeTONEeTONE LONG FINALfFINAL",
    "dMID-LEVEL TONEdGLOTTAL STOP VARIANTdMID-LEVEL TONE LONG FINALgFINALdLOW-FALLING TONE LONG",
    "fTONEdGLOTTAL STOPdLOW-FALLING TONE LONG FINALgFINALdGLOTTAL STOP FINAL",
    "@11C00aBHAIKSUKI LETTER AcAAcIcIIcUcUUcVOCALIC RdRRdL@11C0AcEcAIcOcAUcKAcKHAcGAcGHAcNGAcCA",
    "cCHAcJAcJHAcNYAcTTAcTTHAcDDAcDDHAcNNAcTAcTHAcDAcDHAcNAcPAcPHAcBAcBHAcMAcYAcRAcLAcVAcSHAcSSA",
    "cSAcHAbVOWEL SIGN AAdIdIIdUdUUdVOCALIC ReRReL@11C38dEdAIdOdAUbSIGN CANDRABINDUcANUSVARA",
    "cVISARGAcVIRAMAcAVAGRAHAbDANDAbDOUBLE DANDAbWORD SEPARATORbGAP FILLER-1d2@11C50bDIGIT ZERO",
    "cONEcTWOcTHREEcFOURcFIVEcSIXcSEVENcEIGHTcNINEbNUMBER ONEcTWOcTHREEcFOURcFIVEcSIXcSEVENcEIGHT",
    "cNINEcTENcTWENTYcTHIRTYcFORTYcFIFTYcSIXTYcSEVENTYcEIGHTYcNINETYbHUNDREDS UNIT MARK",
    "@11C70aMARCHEN HEAD MARKbMARK SHADbLETTER KAcKHAcGAcNGAcCAcCHAcJAcNYAcTAcTHAcDAcNAcPAcPHAcBA",
    "cMAcTSAcTSHAcDZAcWAcZHAcZAc-AcYAcRAcLAcSHAcSAcHAcA@11C92bSUBJOINED LETTER KAdKHAdGAdNGAdCA",
    "dCHAdJAdNYAdTAdTHAdDAdNAdPAdPHAdBAdMAdTSAdTSHAdDZAdWAdZHAdZA@11CA9dYAdRAdLAdSHAdSAdHAdA",
    "bVOWEL SIGN AAdIdUdEdObSIGN ANUSVARAcCANDRABINDU@11D00aMASARAM GONDI LETTER AdAAdIdIIdUdUUdE",
    "@11D08dAIdO@11D0BdAUdKAdKHAdGAdGHAdNGAdCAdCHAdJAdJHAdNYAdTTAdTTHAdDDAdDDHAdNNAdTAdTHAdDAdDHA",
    "dNAdPAdPHAdBAdBHAdMAdYAdRAdLAdVAdSHAdSSAdSAdHAdLLAdKSSAdJNYAdTRAcVOWEL SIGN AAeIeIIeUeUU",
    "eVOCALIC R@11D3AeE@11D3CeAIeO@11D3FeAUcSIGN ANUSVARAdVISARGAdNUKTAdCANDRAdHALANTAcVIRAMA",
    "cREPHAcRA-KARA@11D50cDIGIT ZEROdONEdTWOdTHREEdFOURdFIVEdSIXdSEVENdEIGHTdNINE",
    "@11D60aGUNJALA GONDI LETTER AdAAdIdIIdUdUU@11D67dEEdAI@11D6AdOOdAUdYAdVAdBAdBHAdMAdKAdKHAdTA",
    "dTHAdLAdGAdGHAdDAdDHAdNAdCAdCHAdTTAdTTHAdLLAdJAdJHAdDDAdDDHAdNGAdPAdPHAdHAdRAdSA",
    "cVOWEL SIGN AAeIeIIeUeUU@11D90eEEeAI@11D93eOOeAUcSIGN ANUSVARAdVISARGAcVIRAMAcOM",
    "@11DA0cDIGIT ZEROdONEdTWOdTHREEdFOURdFIVEdSIXdSEVENdEIGHTdNINE@11EE0aMAKASAR LETTER KAcGAcNGA",
    "cPAcBAcMAcTAcDAcNAcCAcJAcNYAcYAcRAcLAcVAcSAcAbANGKAbVOWEL SIGN IdUdEdObPASSIMBANG",
    "bEND OF SECTION@11FB0aLISU LETTER YHA@11FC0aTAMIL FRACTION ONE THREE-HUNDRED-AND-TWENTIETH",
    "dONE-HUNDRED-AND-SIXTIETHdEIGHTIETHdSIXTY-FOURTHdFORTIETHdTHIRTY-SECONDcTHREE EIGHTIETHS",
    "dSIXTY-FOURTHScONE TWENTIETHdSIXTEENTH-1e2dTENTHdEIGHTHcTHREE TWENTIETHSdSIXTEENTHScONE FIFTH",
    "dQUARTERdHALF-1e2cTHREE QUARTERScDOWNSCALING FACTOR KIIZHbSIGN NELcCEVITUcAAZHAAKKUcUZHAKKU",
    "cMUUVUZHAKKUcKURUNIcPATHAKKUcMUKKURUNIcKAACUcPANAMcPONcVARAAKANcPAARAMcKUZHIcVELI",
    "bWET CULTIVATION SIGNbDRY ~bLAND SIGNbSALT PAN SIGNbTRADITIONAL CREDIT ~cNUMBER ~",
    "bCURRENT SIGNbAND ODD SIGNbSPENT SIGNbTOTAL ~bIN POSSESSION SIGNbSTARTING FROM ~",
    "bSIGN MUTHALIYAcVAKAIYARAA@11FFFbPUNCTUATION END OF TEXT"]

end JsonExpr.Text.CharacterName
