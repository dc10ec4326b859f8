/-!
The names of the characters from 0900 to 13FD.
-/

namespace JsonExpr.Text.CharacterName

def from0900 : List String :=
  ["@900aDEVANAGARI SIGN INVERTED CANDRABINDUcCANDRABINDUcANUSVARAcVISARGAbLETTER SHORT AcAcAAcI",
    "cIIcUcUUcVOCALIC RdLcCANDRA EcSHORT EcEcAIcCANDRA OcSHORT OcOcAUcKAcKHAcGAcGHAcNGAcCAcCHAcJA",
    "cJHAcNYAcTTAcTTHAcDDAcDDHAcNNAcTAcTHAcDAcDHAcNAcNNNAcPAcPHAcBAcBHAcMAcYAcRAcRRAcLAcLLAcLLLA",
    "cVAcSHAcSSAcSAcHAbVOWEL SIGN OEdOOEbSIGN NUKTAcAVAGRAHAbVOWEL SIGN AAdIdIIdUdUUdVOCALIC ReRR",
    "dCANDRA EdSHORT EdEdAIdCANDRA OdSHORT OdOdAUbSIGN VIRAMAbVOWEL SIGN PRISHTHAMATRA EdAWbOM",
    "bSTRESS SIGN UDATTAdANUDATTAbGRAVE ACCENTbACUTE ~bVOWEL SIGN CANDRA LONG EdUEdUUEbLETTER QA",
    "cKHHAcGHHAcZAcDDDHAcRHAcFAcYYAcVOCALIC RRdLLbVOWEL SIGN VOCALIC LeLLbDANDAbDOUBLE DANDA",
    "bDIGIT ZEROcONEcTWOcTHREEcFOURcFIVEcSIXcSEVENcEIGHTcNINEbABBREVIATION SIGN",
    "bSIGN HIGH SPACING DOTbLETTER CANDRA AcOEcOOEcAWcUEcUUEcMARWARI DDAcZHAcHEAVY YAcGGAcJJA",
    "cGLOTTAL STOPcDDDAcBBAaBENGALI ANJIbSIGN CANDRABINDUcANUSVARAcVISARGA@985bLETTER AcAAcIcIIcU",
    "cUUcVOCALIC RdL@98FcEcAI@993cOcAUcKAcKHAcGAcGHAcNGAcCAcCHAcJAcJHAcNYAcTTAcTTHAcDDAcDDHAcNNA",
    "cTAcTHAcDAcDHAcNA@9AAcPAcPHAcBAcBHAcMAcYAcRA@9B2cLA@9B6cSHAcSSAcSAcHA@9BCbSIGN NUKTAcAVAGRAHA",
    "bVOWEL SIGN AAdIdIIdUdUUdVOCALIC ReRR@9C7dEdAI@9CBdOdAUbSIGN VIRAMAbLETTER KHANDA TA",
    "@9D7bAU LENGTH MARK@9DCbLETTER RRAcRHA@9DFcYYAcVOCALIC RRdLLbVOWEL SIGN VOCALIC LeLL",
    "@9E6bDIGIT ZEROcONEcTWOcTHREEcFOURcFIVEcSIXcSEVENcEIGHTcNINEbLETTER RA WITH MIDDLE DIAGONAL",
    "eLOWER ~bRUPEE MARKcSIGNbCURRENCY NUMERATOR ONEdTWOdTHREEdFOURdONE LESS THAN THE DENOMINATOR",
    "cDENOMINATOR SIXTEENbISSHARbGANDA MARKbLETTER VEDIC ANUSVARAbABBREVIATION SIGNbSANDHI MARK",
    "@A01aGURMUKHI SIGN ADAK BINDIcBINDIcVISARGA@A05bLETTER AcAAcIcIIcUcUU@A0FcEEcAI@A13cOOcAUcKA",
    "cKHAcGAcGHAcNGAcCAcCHAcJAcJHAcNYAcTTAcTTHAcDDAcDDHAcNNAcTAcTHAcDAcDHAcNA@A2AcPAcPHAcBAcBHAcMA",
    "cYAcRA@A32cLAcLLA@A35cVAcSHA@A38cSAcHA@A3CbSIGN NUKTA@A3EbVOWEL SIGN AAdIdIIdUdUU@A47dEEdAI",
    "@A4BdOOdAUbSIGN VIRAMA@A51cUDAAT@A59bLETTER KHHAcGHHAcZAcRRA@A5EcFA@A66bDIGIT ZEROcONEcTWO",
    "cTHREEcFOURcFIVEcSIXcSEVENcEIGHTcNINEbTIPPIbADDAKbIRIbURAbEK ONKARbSIGN YAKASH",
    "bABBREVIATION SIGN@A81aGUJARATI SIGN CANDRABINDUcANUSVARAcVISARGA@A85bLETTER AcAAcIcIIcUcUU",
    "cVOCALIC RdLbVOWEL CANDRA E@A8FbLETTER EcAIbVOWEL CANDRA O@A93bLETTER OcAUcKAcKHAcGAcGHAcNGA",
    "cCAcCHAcJAcJHAcNYAcTTAcTTHAcDDAcDDHAcNNAcTAcTHAcDAcDHAcNA@AAAcPAcPHAcBAcBHAcMAcYAcRA@AB2cLA",
    "cLLA@AB5cVAcSHAcSSAcSAcHA@ABCbSIGN NUKTAcAVAGRAHAbVOWEL SIGN AAdIdIIdUdUUdVOCALIC ReRR",
    "dCANDRA E@AC7dEdAIdCANDRA O@ACBdOdAUbSIGN VIRAMA@AD0bOM@AE0bLETTER VOCALIC RRdLL",
    "bVOWEL SIGN VOCALIC LeLL@AE6bDIGIT ZEROcONEcTWOcTHREEcFOURcFIVEcSIXcSEVENcEIGHTcNINE",
    "bABBREVIATION SIGNbRUPEE ~@AF9bLETTER ZHAbSIGN SUKUNcSHADDAcMADDAHcTHREE-DOT NUKTA ABOVE",
    "cCIRCLE NUKTA ABOVEcTWO-CIRCLE NUKTA ABOVE@B01aORIYA SIGN CANDRABINDUcANUSVARAcVISARGA",
    "@B05bLETTER AcAAcIcIIcUcUUcVOCALIC RdL@B0FcEcAI@B13cOcAUcKAcKHAcGAcGHAcNGAcCAcCHAcJAcJHAcNYA",
    "cTTAcTTHAcDDAcDDHAcNNAcTAcTHAcDAcDHAcNA@B2AcPAcPHAcBAcBHAcMAcYAcRA@B32cLAcLLA@B35cVAcSHAcSSA",
    "cSAcHA@B3CbSIGN NUKTAcAVAGRAHAbVOWEL SIGN AAdIdIIdUdUUdVOCALIC ReRR@B47dEdAI@B4BdOdAU",
    "bSIGN VIRAMA@B55cOVERLINEbAI LENGTH MARKbAU ~@B5CbLETTER RRAcRHA@B5FcYYAcVOCALIC RRdLL",
    "bVOWEL SIGN VOCALIC LeLL@B66bDIGIT ZEROcONEcTWOcTHREEcFOURcFIVEcSIXcSEVENcEIGHTcNINEbISSHAR",
    "bLETTER WAbFRACTION ONE QUARTERdHALFcTHREE QUARTERScONE SIXTEENTHdEIGHTHcTHREE SIXTEENTHS",
    "@B82aTAMIL SIGN ANUSVARAcVISARGA@B85bLETTER AcAAcIcIIcUcUU@B8EcEcEEcAI@B92cOcOOcAUcKA@B99cNGA",
    "cCA@B9CcJA@B9EcNYAcTTA@BA3cNNAcTA@BA8cNAcNNNAcPA@BAEcMAcYAcRAcRRAcLAcLLAcLLLAcVAcSHAcSSAcSA",
    "cHA@BBEbVOWEL SIGN AAdIdIIdUdUU@BC6dEdEEdAI@BCAdOdOOdAUbSIGN VIRAMA@BD0bOM@BD7bAU LENGTH MARK",
    "@BE6bDIGIT ZEROcONEcTWOcTHREEcFOURcFIVEcSIXcSEVENcEIGHTcNINEbNUMBER TENcONE HUNDREDdTHOUSAND",
    "bDAY SIGNbMONTH ~bYEAR ~bDEBIT ~bCREDIT ~bAS ABOVE SIGNbRUPEE SIGNbNUMBER ~",
    "@C00aTELUGU SIGN COMBINING CANDRABINDU ABOVEcCANDRABINDUcANUSVARAcVISARGA",
    "cCOMBINING ANUSVARA ABOVEbLETTER AcAAcIcIIcUcUUcVOCALIC RdL@C0EcEcEEcAI@C12cOcOOcAUcKAcKHAcGA",
    "cGHAcNGAcCAcCHAcJAcJHAcNYAcTTAcTTHAcDDAcDDHAcNNAcTAcTHAcDAcDHAcNA@C2AcPAcPHAcBAcBHAcMAcYAcRA",
    "cRRAcLAcLLAcLLLAcVAcSHAcSSAcSAcHA@C3CbSIGN NUKTAcAVAGRAHAbVOWEL SIGN AAdIdIIdUdUUdVOCALIC R",
    "eRR@C46dEdEEdAI@C4AdOdOOdAUbSIGN VIRAMA@C55bLENGTH MARKbAI LENGTH MARK@C58bLETTER TSAcDZA",
    "cRRRA@C5DcNAKAARA POLLU@C60cVOCALIC RRdLLbVOWEL SIGN VOCALIC LeLL@C66bDIGIT ZEROcONEcTWO",
    "cTHREEcFOURcFIVEcSIXcSEVENcEIGHTcNINE@C77bSIGN SIDDHAM",
    "bFRACTION DIGIT ZERO FOR ODD POWERS OF FOURdONE ~dTWO ~dTHREE ~dONE FOR EVEN ~dTWO ~dTHREE ~",
    "bSIGN TUUMUaKANNADA SIGN SPACING CANDRABINDUcCANDRABINDUcANUSVARAcVISARGAcSIDDHAMbLETTER AcAA",
    "cIcIIcUcUUcVOCALIC RdL@C8EcEcEEcAI@C92cOcOOcAUcKAcKHAcGAcGHAcNGAcCAcCHAcJAcJHAcNYAcTTAcTTHA",
    "cDDAcDDHAcNNAcTAcTHAcDAcDHAcNA@CAAcPAcPHAcBAcBHAcMAcYAcRAcRRAcLAcLLA@CB5cVAcSHAcSSAcSAcHA",
    "@CBCbSIGN NUKTAcAVAGRAHAbVOWEL SIGN AAdIdIIdUdUUdVOCALIC ReRR@CC6dEdEEdAI@CCAdOdOOdAU",
    "bSIGN VIRAMA@CD5bLENGTH MARKbAI LENGTH MARK@CDDbLETTER NAKAARA POLLUcFA@CE0cVOCALIC RRdLL",
    "bVOWEL SIGN VOCALIC LeLL@CE6bDIGIT ZEROcONEcTWOcTHREEcFOURcFIVEcSIXcSEVENcEIGHTcNINE",
    "@CF1bSIGN JIHVAMULIYAcUPADHMANIYA@D00aMALAYALAM SIGN COMBINING ANUSVARA ABOVEcCANDRABINDU",
    "cANUSVARAcVISARGAbLETTER VEDIC ANUSVARAcAcAAcIcIIcUcUUcVOCALIC RdL@D0EcEcEEcAI@D12cOcOOcAUcKA",
    "cKHAcGAcGHAcNGAcCAcCHAcJAcJHAcNYAcTTAcTTHAcDDAcDDHAcNNAcTAcTHAcDAcDHAcNAcNNNAcPAcPHAcBAcBHA",
    "cMAcYAcRAcRRAcLAcLLAcLLLAcVAcSHAcSSAcSAcHAcTTTAbSIGN VERTICAL BAR VIRAMAcCIRCULAR VIRAMA",
    "cAVAGRAHAbVOWEL SIGN AAdIdIIdUdUUdVOCALIC ReRR@D46dEdEEdAI@D4AdOdOOdAUbSIGN VIRAMA",
    "bLETTER DOT REPHbSIGN PARA@D54bLETTER CHILLU MdYdLLLbAU LENGTH MARK",
    "bFRACTION ONE ONE-HUNDRED-AND-SIXTIETHdFORTIETHcTHREE EIGHTIETHScONE TWENTIETHdTENTH",
    "cTHREE TWENTIETHScONE FIFTHbLETTER ARCHAIC IIcVOCALIC RRdLLbVOWEL SIGN VOCALIC LeLL",
    "@D66bDIGIT ZEROcONEcTWOcTHREEcFOURcFIVEcSIXcSEVENcEIGHTcNINEbNUMBER TENcONE HUNDREDdTHOUSAND",
    "bFRACTION ONE QUARTERdHALFcTHREE QUARTERScONE SIXTEENTHdEIGHTHcTHREE SIXTEENTHSbDATE MARK",
    "bLETTER CHILLU NNdNdRRdLdLLdK@D81aSINHALA SIGN CANDRABINDUcANUSVARAYAcVISARGAYA",
    "@D85bLETTER AYANNAcAAYANNAcAEYANNAcAEEYANNAcIYANNAcIIYANNAcUYANNAcUUYANNAcIRUYANNAcIRUUYANNA",
    "cILUYANNAcILUUYANNAcEYANNAcEEYANNAcAIYANNAcOYANNAcOOYANNAcAUYANNA@D9AcALPAPRAANA KAYANNA",
    "cMAHAAPRAANA ~cALPAPRAANA GAYANNAcMAHAAPRAANA ~cKANTAJA NAASIKYAYAcSANYAKA GAYANNA",
    "cALPAPRAANA CAYANNAcMAHAAPRAANA ~cALPAPRAANA JAYANNAcMAHAAPRAANA ~cTAALUJA NAASIKYAYA",
    "dSANYOOGA NAAKSIKYAYAcSANYAKA JAYANNAcALPAPRAANA TTAYANNAcMAHAAPRAANA ~cALPAPRAANA DDAYANNA",
    "cMAHAAPRAANA ~cMUURDHAJA NAYANNAcSANYAKA DDAYANNAcALPAPRAANA TAYANNAcMAHAAPRAANA ~",
    "cALPAPRAANA DAYANNAcMAHAAPRAANA ~cDANTAJA NAYANNA@DB3cSANYAKA DAYANNAcALPAPRAANA PAYANNA",
    "cMAHAAPRAANA ~cALPAPRAANA BAYANNAcMAHAAPRAANA ~cMAYANNAcAMBA BAYANNAcYAYANNAcRAYANNA",
    "@DBDcDANTAJA LAYANNA@DC0cVAYANNAcTAALUJA SAYANNAcMUURDHAJA ~cDANTAJA ~cHAYANNA",
    "cMUURDHAJA LAYANNAcFAYANNA@DCAbSIGN AL-LAKUNA@DCFbVOWEL SIGN AELA-PILLAdKETTI AEDA-PILLA",
    "dDIGA ~dKETTI IS-~dDIGA ~dKETTI PAA-~@DD6dDIGA ~@DD8dGAETTA-PILLAdKOMBUVAdDIGA KOMBUVA",
    "dKOMBU DEKAdKOMBUVA HAA AELA-PILLAfDIGA AELA-PILLAfGAYANUKITTAdGAYANUKITTA",
    "@DE6bLITH DIGIT ZEROdONEdTWOdTHREEdFOURdFIVEdSIXdSEVENdEIGHTdNINE",
    "@DF2bVOWEL SIGN DIGA GAETTA-PILLAeGAYANUKITTAbPUNCTUATION KUNDDALIYA",
    "@E01aTHAI CHARACTER KO KAIcKHO KHAIdKHUATdKHWAIdKHONdRAKHANGcNGO NGUcCHO CHANdCHINGdCHANG",
    "cSO SOcCHO CHOEcYO YINGcDO CHADAcTO PATAKcTHO THANdNANGMONTHOdPHUTHAOcNO NENcDO DEKcTO TAO",
    "cTHO THUNGdTHAHANdTHONGcNO NUcBO BAIMAIcPO PLAcPHO PHUNGcFO FAcPHO PHANcFO FANcPHO SAMPHAO",
    "cMO MAcYO YAKcRO RUAcRUcLO LINGcLUcWO WAENcSO SALAdRUSIdSUAcHO HIPcLO CHULAcO ANGcHO NOKHUK",
    "cPAIYANNOIcSARA AcMAI HAN-AKATcSARA AAdAMdIdIIdUEdUEEdUdUUcPHINTHU@E3FbCURRENCY SYMBOL BAHT",
    "bCHARACTER SARA EdAEdOdAI MAIMUANeMAIMALAIcLAKKHANGYAOcMAIYAMOKcMAITAIKHUcMAI EKdTHOdTRI",
    "dCHATTAWAcTHANTHAKHATcNIKHAHITcYAMAKKANcFONGMANbDIGIT ZEROcONEcTWOcTHREEcFOURcFIVEcSIXcSEVEN",
    "cEIGHTcNINEbCHARACTER ANGKHANKHUcKHOMUT@E81aLAO LETTER KOcKHO SUNG@E84dTAM@E86cPALI GHAcNGO",
    "cCOcPALI CHAcSO TAM@E8CcPALI JHAcNYOcPALI NYAdTTAdTTHAdDDAdDDHAdNNAcDOcTOcTHO SUNGdTAM",
    "cPALI DHAcNOcBOcPOcPHO SUNGcFO TAMcPHO ~cFO SUNGcPALI BHAcMOcYOcLO LING@EA5dLOOT@EA7cWO",
    "cSANSKRIT SHAdSSAcSO SUNGcHO ~cPALI LLAcOcHO TAMbELLIPSISbVOWEL SIGN AdMAI KANdAAdAMdIdIIdY",
    "dYYdUdUUbSIGN PALI VIRAMAbVOWEL SIGN MAI KONbSEMIVOWEL SIGN LOdNYO@EC0bVOWEL SIGN EdEIdOdAY",
    "dAI@EC6bKO LA@EC8bTONE MAI EKdTHOdTIdCATAWAbCANCELLATION MARKbNIGGAHITA@ED0bDIGIT ZEROcONE",
    "cTWOcTHREEcFOURcFIVEcSIXcSEVENcEIGHTcNINE@EDCbHO NOcMObLETTER KHMU GOdNYO",
    "@F00aTIBETAN SYLLABLE OMbMARK GTER YIG MGO TRUNCATED Af-UM RNAM BCAD MAhGTER TSHEG ~",
    "cINITIAL YIG MGO MDUN MAcCLOSING YIG MGO SGAB ~cCARET YIG MGO PHUR SHAD MA",
    "cYIG MGO TSHEG SHAD MAcSBRUL SHADcBSKUR YIG MGOcBKA- SHOG YIG MGOcINTERSYLLABIC TSHEG",
    "cDELIMITER TSHEG BSTARcSHADcNYIS SHADcTSHEG ~cNYIS TSHEG SHADcRIN CHEN SPUNGS SHAD",
    "cRGYA GRAM SHADcCARET -DZUD RTAGS ME LONG CANcGTER TSHEGbLOGOTYPE SIGN CHAD RTAGSdLHAG ~",
    "bASTROLOGICAL SIGN SGRA GCAN -CHAR RTAGSd-KHYUD PAdSDONG TSHUGSbSIGN RDEL DKAR GCIGeGNYIS",
    "eGSUMdNAG GCIGeGNYISdDKAR RDEL NAGbDIGIT ZEROcONEcTWOcTHREEcFOURcFIVEcSIXcSEVENcEIGHTcNINE",
    "cHALF ONEdTWOdTHREEdFOURdFIVEdSIXdSEVENdEIGHTdNINEdZERObMARK BSDUS RTAGScNGAS BZUNG NYI ZLA",
    "cCARET -DZUD RTAGS BZHI MIG CANcNGAS BZUNG SGOR RTAGScCHE MGOcTSA -PHRUcGUG RTAGS GYONeGYAS",
    "cANG KHANG GYONeGYASbSIGN YAR TSHEScMAR ~bLETTER KAcKHAcGAcGHAcNGAcCAcCHAcJA@F49cNYAcTTAcTTHA",
    "cDDAcDDHAcNNAcTAcTHAcDAcDHAcNAcPAcPHAcBAcBHAcMAcTSAcTSHAcDZAcDZHAcWAcZHAcZAc-AcYAcRAcLAcSHA",
    "cSSAcSAcHAcAcKSSAcFIXED-FORM RAcKKAcRRA@F71bVOWEL SIGN AAdIdIIdUdUUdVOCALIC ReRReLeLLdEdEEdO",
    "dOObSIGN RJES SU NGA ROcRNAM BCADbVOWEL SIGN REVERSED IeIIbSIGN NYI ZLA NAA DAcSNA LDAN",
    "bMARK HALANTAcPALUTAbSIGN LCI RTAGScYANG ~cLCE TSA CANcMCHU CANcGRU CAN RGYINGSdMED ~",
    "cINVERTED MCHU CANbSUBJOINED SIGN LCE TSA CANdMCHU CANdINVERTED MCHU CANcLETTER KAdKHAdGAdGHA",
    "dNGAdCAdCHAdJA@F99dNYAdTTAdTTHAdDDAdDDHAdNNAdTAdTHAdDAdDHAdNAdPAdPHAdBAdBHAdMAdTSAdTSHAdDZA",
    "dDZHAdWAdZHAdZAd-AdYAdRAdLAdSHAdSSAdSAdHAdAdKSSAdFIXED-FORM WAfYAfRA@FBEbKU RU KHA",
    "dKHA BZHI MIG CANbCANTILLATION SIGN HEAVY BEATdLIGHT ~dCANG TE-UdSBUB -CHALbSYMBOL DRIL BU",
    "cRDO RJEcPADMA GDANcRDO RJE RGYA GRAMcPHUR PAcNOR BUdBU NYIS -KHYILeGSUM ~eBZHI ~",
    "@FCEbSIGN RDEL NAG RDEL DKAReGSUMbMARK BSKA- SHOG GI MGO RGYANcMNYAM YIG GI MGO RGYAN",
    "cNYIS TSHEGcINITIAL BRDA RNYING YIG MGO MDUN MAcCLOSING BRDA RNYING YIG MGO SGAB ~",
    "aRIGHT-FACING SVASTI SIGNaLEFT-~aRIGHT-FACING SVASTI SIGN WITH DOTSaLEFT-~",
    "aTIBETAN MARK LEADING MCHAN RTAGScTRAILING ~@1000aMYANMAR LETTER KAcKHAcGAcGHAcNGAcCAcCHAcJA",
    "cJHAcNYAcNNYAcTTAcTTHAcDDAcDDHAcNNAcTAcTHAcDAcDHAcNAcPAcPHAcBAcBHAcMAcYAcRAcLAcWAcSAcHAcLLAcA",
    "cSHAN AcIcIIcUcUUcEcMON EcOcAUbVOWEL SIGN TALL AAdAAdIdIIdUdUUdEdAIdMON IIeOdE ABOVE",
    "bSIGN ANUSVARAcDOT BELOWcVISARGAcVIRAMAcASATbCONSONANT SIGN MEDIAL YAeRAeWAeHA",
    "bLETTER GREAT SAbDIGIT ZEROcONEcTWOcTHREEcFOURcFIVEcSIXcSEVENcEIGHTcNINEbSIGN LITTLE SECTION",
    "cSECTIONbSYMBOL LOCATIVEcCOMPLETEDcAFOREMENTIONEDcGENITIVEbLETTER SHAcSSAcVOCALIC RdRRdLdLL",
    "bVOWEL SIGN VOCALIC ReRReLeLLbLETTER MON NGAdJHAdBBAdBBEbCONSONANT SIGN MON MEDIAL NAfMAfLA",
    "bLETTER SGAW KAREN SHAbVOWEL SIGN SGAW KAREN EUbTONE MARK SGAW KAREN HATHIfKE PHO",
    "bLETTER WESTERN PWO KAREN THAfPWAbVOWEL SIGN WESTERN PWO KAREN EUgUE",
    "bSIGN WESTERN PWO KAREN TONE-1g2g3g4g5bLETTER EASTERN PWO KAREN NNAfYWAfGHWA",
    "bVOWEL SIGN GEBA KAREN IdKAYAH OEeUeEEbLETTER SHAN KAdKHAdGAdCAdZAdNYAdDAdNAdPHAdFAdBAdTHAdHA",
    "bCONSONANT SIGN SHAN MEDIAL WAbVOWEL SIGN SHAN AAeEeE ABOVEeFINAL YbSIGN SHAN TONE-2e3e5e6",
    "dCOUNCIL TONE-2f3eEMPHATIC TONEbLETTER RUMAI PALAUNG FAbSIGN RUMAI PALAUNG TONE-5",
    "bSHAN DIGIT ZEROdONEdTWOdTHREEdFOURdFIVEdSIXdSEVENdEIGHTdNINEbSIGN KHAMTI TONE-1e3",
    "bVOWEL SIGN AITON AeAIbSYMBOL SHAN ONEdEXCLAMATIONaGEORGIAN CAPITAL LETTER ANdBANdGANdDONdEN",
    "dVINdZENdTANdINdKANdLASdMANdNARdONdPARdZHARdRAEdSANdTARdUNdPHARdKHARdGHANdQARdSHINdCHINdCAN",
    "dJILdCILdCHARdXANdJHANdHAEdHEdHIEdWEdHARdHOE@10C7dYN@10CDdAEN@10D0bLETTER ANcBANcGANcDONcEN",
    "cVINcZENcTANcINcKANcLAScMANcNARcONcPARcZHARcRAEcSANcTARcUNcPHARcKHARcGHANcQARcSHINcCHINcCAN",
    "cJILcCILcCHARcXANcJHANcHAEcHEcHIEcWEcHARcHOEcFIcYNcELIFIcTURNED GANcAINbPARAGRAPH SEPARATOR",
    "aMODIFIER LETTER GEORGIAN NARaGEORGIAN LETTER AENcHARD SIGNcLABIAL ~aHANGUL CHOSEONG KIYEOK",
    "cSSANGKIYEOKcNIEUNcTIKEUTcSSANGTIKEUTcRIEULcMIEUMcPIEUPcSSANGPIEUPcSIOScSSANGSIOScIEUNGcCIEUC",
    "cSSANGCIEUCcCHIEUCHcKHIEUKHcTHIEUTHcPHIEUPHcHIEUHcNIEUN-KIYEOKcSSANGNIEUNcNIEUN-TIKEUTdPIEUP",
    "cTIKEUT-KIYEOKcRIEUL-NIEUNcSSANGRIEULcRIEUL-HIEUHcKAPYEOUNRIEULcMIEUM-PIEUPcKAPYEOUNMIEUM",
    "cPIEUP-KIYEOKdNIEUNdTIKEUTdSIOSdSIOS-KIYEOKeTIKEUTePIEUPdSSANGSIOSdSIOS-CIEUCdCIEUCdCHIEUCH",
    "dTHIEUTHdPHIEUPHcKAPYEOUNPIEUPcKAPYEOUNSSANGPIEUPcSIOS-KIYEOKdNIEUNdTIKEUTdRIEULdMIEUMdPIEUP",
    "dPIEUP-KIYEOKdSSANGSIOSdIEUNGdCIEUCdCHIEUCHdKHIEUKHdTHIEUTHdPHIEUPHdHIEUHcCHITUEUMSIOS",
    "cCHITUEUMSSANGSIOScCEONGCHIEUMSIOScCEONGCHIEUMSSANGSIOScPANSIOScIEUNG-KIYEOKdTIKEUTdMIEUM",
    "dPIEUPdSIOSdPANSIOScSSANGIEUNGcIEUNG-CIEUCdCHIEUCHdTHIEUTHdPHIEUPHcYESIEUNGcCIEUC-IEUNG",
    "cCHITUEUMCIEUCcCHITUEUMSSANGCIEUCcCEONGCHIEUMCIEUCcCEONGCHIEUMSSANGCIEUCcCHIEUCH-KHIEUKH",
    "dHIEUHcCHITUEUMCHIEUCHcCEONGCHIEUMCHIEUCHcPHIEUPH-PIEUPcKAPYEOUNPHIEUPHcSSANGHIEUH",
    "cYEORINHIEUHcKIYEOK-TIKEUTcNIEUN-SIOSdCIEUCdHIEUHcTIKEUT-RIEULcFILLERbJUNGSEONG ~cAcAEcYAcYAE",
    "cEOcEcYEOcYEcOcWAcWAEcOEcYOcUcWEOcWEcWIcYUcEUcYIcIcA-OdUcYA-OdYOcEO-OdUdEUcYEO-OdUcO-EOdEdYE",
    "dOdUcYO-YAdYAEdYEOdOdIcU-AdAEdEO-EUdYEdUcYU-AdEOdEdYEOdYEdUdIcEU-UdEUcYI-UcI-AdYAdOdUdEU",
    "dARAEAcARAEAcARAEA-EOdUdIcSSANGARAEAcA-EUcYA-UcYEO-YAcO-~dYAEbJONGSEONG KIYEOKcSSANGKIYEOK",
    "cKIYEOK-SIOScNIEUNcNIEUN-CIEUCdHIEUHcTIKEUTcRIEULcRIEUL-KIYEOKdMIEUMdPIEUPdSIOSdTHIEUTH",
    "dPHIEUPHdHIEUHcMIEUMcPIEUPcPIEUP-SIOScSIOScSSANGSIOScIEUNGcCIEUCcCHIEUCHcKHIEUKHcTHIEUTH",
    "cPHIEUPHcHIEUHcKIYEOK-RIEULdSIOS-KIYEOKcNIEUN-KIYEOKdTIKEUTdSIOSdPANSIOSdTHIEUTH",
    "cTIKEUT-KIYEOKdRIEULcRIEUL-KIYEOK-SIOSdNIEUNdTIKEUTdTIKEUT-HIEUHcSSANGRIEUL",
    "cRIEUL-MIEUM-KIYEOKeSIOSdPIEUP-~eHIEUHdKAPYEOUNPIEUPdSSANGSIOSdPANSIOSdKHIEUKHdYEORINHIEUH",
    "cMIEUM-KIYEOKdRIEULdPIEUPdSIOSdSSANGSIOSdPANSIOSdCHIEUCHdHIEUHcKAPYEOUNMIEUMcPIEUP-RIEUL",
    "dPHIEUPHdHIEUHcKAPYEOUNPIEUPcSIOS-KIYEOKdTIKEUTdRIEULdPIEUPcPANSIOScIEUNG-KIYEOKdSSANGKIYEOK",
    "cSSANGIEUNGcIEUNG-KHIEUKHcYESIEUNGcYESIEUNG-SIOSdPANSIOScPHIEUPH-PIEUPcKAPYEOUNPHIEUPH",
    "cHIEUH-NIEUNdRIEULdMIEUMdPIEUPcYEORINHIEUHcKIYEOK-NIEUNdPIEUPdCHIEUCHdKHIEUKHdHIEUH",
    "cSSANGNIEUNaETHIOPIC SYLLABLE HAcHUcHIcHAAcHEEcHEcHOcHOAcLAcLUcLIcLAAcLEEcLEcLOcLWAcHHAcHHU",
    "cHHIcHHAAcHHEEcHHEcHHOcHHWAcMAcMUcMIcMAAcMEEcMEcMOcMWAcSZAcSZUcSZIcSZAAcSZEEcSZEcSZOcSZWAcRA",
    "cRUcRIcRAAcREEcREcROcRWAcSAcSUcSIcSAAcSEEcSEcSOcSWAcSHAcSHUcSHIcSHAAcSHEEcSHEcSHOcSHWAcQAcQU",
    "cQIcQAAcQEEcQEcQOcQOAcQWA@124AcQWIcQWAAcQWEEcQWE@1250cQHAcQHUcQHIcQHAAcQHEEcQHEcQHO@1258cQHWA",
    "@125AcQHWIcQHWAAcQHWEEcQHWE@1260cBAcBUcBIcBAAcBEEcBEcBOcBWAcVAcVUcVIcVAAcVEEcVEcVOcVWAcTAcTU",
    "cTIcTAAcTEEcTEcTOcTWAcCAcCUcCIcCAAcCEEcCEcCOcCWAcXAcXUcXIcXAAcXEEcXEcXOcXOAcXWA@128AcXWIcXWAA",
    "cXWEEcXWE@1290cNAcNUcNIcNAAcNEEcNEcNOcNWAcNYAcNYUcNYIcNYAAcNYEEcNYEcNYOcNYWAcGLOTTAL AdUdIdAA",
    "dEEdEdOdWAcKAcKUcKIcKAAcKEEcKEcKOcKOAcKWA@12B2cKWIcKWAAcKWEEcKWE@12B8cKXAcKXUcKXIcKXAAcKXEE",
    "cKXEcKXO@12C0cKXWA@12C2cKXWIcKXWAAcKXWEEcKXWE@12C8cWAcWUcWIcWAAcWEEcWEcWOcWOAcPHARYNGEAL AdU",
    "dIdAAdEEdEdO@12D8cZAcZUcZIcZAAcZEEcZEcZOcZWAcZHAcZHUcZHIcZHAAcZHEEcZHEcZHOcZHWAcYAcYUcYIcYAA",
    "cYEEcYEcYOcYOAcDAcDUcDIcDAAcDEEcDEcDOcDWAcDDAcDDUcDDIcDDAAcDDEEcDDEcDDOcDDWAcJAcJUcJIcJAAcJEE",
    "cJEcJOcJWAcGAcGUcGIcGAAcGEEcGEcGOcGOAcGWA@1312cGWIcGWAAcGWEEcGWE@1318cGGAcGGUcGGIcGGAAcGGEE",
    "cGGEcGGOcGGWAAcTHAcTHUcTHIcTHAAcTHEEcTHEcTHOcTHWAcCHAcCHUcCHIcCHAAcCHEEcCHEcCHOcCHWAcPHAcPHU",
    "cPHIcPHAAcPHEEcPHEcPHOcPHWAcTSAcTSUcTSIcTSAAcTSEEcTSEcTSOcTSWAcTZAcTZUcTZIcTZAAcTZEEcTZEcTZO",
    "cTZOAcFAcFUcFIcFAAcFEEcFEcFOcFWAcPAcPUcPIcPAAcPEEcPEcPOcPWAcRYAcMYAcFYA",
    "@135DbCOMBINING GEMINATION AND VOWEL LENGTH MARKcVOWEL LENGTH MARKcGEMINATION MARK",
    "bSECTION MARKbWORDSPACEbFULL STOPbCOMMAbSEMICOLONbCOLONbPREFACE COLONbQUESTION MARK",
    "bPARAGRAPH SEPARATORbDIGIT ONEcTWOcTHREEcFOURcFIVEcSIXcSEVENcEIGHTcNINEbNUMBER TENcTWENTY",
    "cTHIRTYcFORTYcFIFTYcSIXTYcSEVENTYcEIGHTYcNINETYcHUNDREDcTEN THOUSAND",
    "@1380bSYLLABLE SEBATBEIT MWAcMWIcMWEEcMWEcSEBATBEIT BWAcBWIcBWEEcBWEcSEBATBEIT FWAcFWIcFWEE",
    "cFWEcSEBATBEIT PWAcPWIcPWEEcPWEbTONAL MARK YIZETdDERETdRIKRIKdSHORT RIKRIKdDIFATdKENATdCHIRET",
    "dHIDETdDERET-HIDETdKURT@13A0aCHEROKEE LETTER AcEcIcOcUcVcGAcKAcGEcGIcGOcGUcGVcHAcHEcHIcHOcHU",
    "cHVcLAcLEcLIcLOcLUcLVcMAcMEcMIcMOcMUcNAcHNAcNAHcNEcNIcNOcNUcNVcQUAcQUEcQUIcQUOcQUUcQUVcSAcS",
    "cSEcSIcSOcSUcSVcDAcTAcDEcTEcDIcTIcDOcDUcDVcDLAcTLAcTLEcTLIcTLOcTLUcTLVcTSAcTSEcTSIcTSOcTSU",
    "cTSVcWAcWEcWIcWOcWUcWVcYAcYEcYIcYOcYUcYVcMV@13F8bSMALL LETTER YEdYIdYOdYUdYVdMV"]

end JsonExpr.Text.CharacterName
