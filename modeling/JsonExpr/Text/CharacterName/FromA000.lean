/-!
The names of the characters from A000 to FFFD.
-/

namespace JsonExpr.Text.CharacterName

def fromA000 : List String :=
  ["@A000aYI SYLLABLE ITcIXcIcIPcIETcIEXcIEcIEPcATcAXcAcAPcUOXcUOcUOPcOTcOXcOcOPcEXcEcWUcBITcBIX",
    "cBIcBIPcBIETcBIEXcBIEcBIEPcBATcBAXcBAcBAPcBUOXcBUOcBUOPcBOTcBOXcBOcBOPcBEXcBEcBEPcBUTcBUXcBU",
    "cBUPcBURXcBURcBYTcBYXcBYcBYPcBYRXcBYRcPITcPIXcPIcPIPcPIEXcPIEcPIEPcPATcPAXcPAcPAPcPUOXcPUO",
    "cPUOPcPOTcPOXcPOcPOPcPUTcPUXcPUcPUPcPURXcPURcPYTcPYXcPYcPYPcPYRXcPYRcBBITcBBIXcBBIcBBIPcBBIET",
    "cBBIEXcBBIEcBBIEPcBBATcBBAXcBBAcBBAPcBBUOXcBBUOcBBUOPcBBOTcBBOXcBBOcBBOPcBBEXcBBEcBBEPcBBUT",
    "cBBUXcBBUcBBUPcBBURXcBBURcBBYTcBBYXcBBYcBBYPcNBITcNBIXcNBIcNBIPcNBIEXcNBIEcNBIEPcNBATcNBAX",
    "cNBAcNBAPcNBOTcNBOXcNBOcNBOPcNBUTcNBUXcNBUcNBUPcNBURXcNBURcNBYTcNBYXcNBYcNBYPcNBYRXcNBYRcHMIT",
    "cHMIXcHMIcHMIPcHMIEXcHMIEcHMIEPcHMATcHMAXcHMAcHMAPcHMUOXcHMUOcHMUOPcHMOTcHMOXcHMOcHMOPcHMUT",
    "cHMUXcHMUcHMUPcHMURXcHMURcHMYXcHMYcHMYPcHMYRXcHMYRcMITcMIXcMIcMIPcMIEXcMIEcMIEPcMATcMAXcMA",
    "cMAPcMUOTcMUOXcMUOcMUOPcMOTcMOXcMOcMOPcMEXcMEcMUTcMUXcMUcMUPcMURXcMURcMYTcMYXcMYcMYPcFITcFIX",
    "cFIcFIPcFATcFAXcFAcFAPcFOXcFOcFOPcFUTcFUXcFUcFUPcFURXcFURcFYTcFYXcFYcFYPcVITcVIXcVIcVIPcVIET",
    "cVIEXcVIEcVIEPcVATcVAXcVAcVAPcVOTcVOXcVOcVOPcVEXcVEPcVUTcVUXcVUcVUPcVURXcVURcVYTcVYXcVYcVYP",
    "cVYRXcVYRcDITcDIXcDIcDIPcDIEXcDIEcDIEPcDATcDAXcDAcDAPcDUOXcDUOcDOTcDOXcDOcDOPcDEXcDEcDEPcDUT",
    "cDUXcDUcDUPcDURXcDURcTITcTIXcTIcTIPcTIEXcTIEcTIEPcTATcTAXcTAcTAPcTUOTcTUOXcTUOcTUOPcTOTcTOX",
    "cTOcTOPcTEXcTEcTEPcTUTcTUXcTUcTUPcTURXcTURcDDITcDDIXcDDIcDDIPcDDIEXcDDIEcDDIEPcDDATcDDAXcDDA",
    "cDDAPcDDUOXcDDUOcDDUOPcDDOTcDDOXcDDOcDDOPcDDEXcDDEcDDEPcDDUTcDDUXcDDUcDDUPcDDURXcDDURcNDIT",
    "cNDIXcNDIcNDIPcNDIEXcNDIEcNDATcNDAXcNDAcNDAPcNDOTcNDOXcNDOcNDOPcNDEXcNDEcNDEPcNDUTcNDUXcNDU",
    "cNDUPcNDURXcNDURcHNITcHNIXcHNIcHNIPcHNIETcHNIEXcHNIEcHNIEPcHNATcHNAXcHNAcHNAPcHNUOXcHNUOcHNOT",
    "cHNOXcHNOPcHNEXcHNEcHNEPcHNUTcNITcNIXcNIcNIPcNIEXcNIEcNIEPcNAXcNAcNAPcNUOXcNUOcNUOPcNOTcNOX",
    "cNOcNOPcNEXcNEcNEPcNUTcNUXcNUcNUPcNURXcNURcHLITcHLIXcHLIcHLIPcHLIEXcHLIEcHLIEPcHLATcHLAXcHLA",
    "cHLAPcHLUOXcHLUOcHLUOPcHLOXcHLOcHLOPcHLEXcHLEcHLEPcHLUTcHLUXcHLUcHLUPcHLURXcHLURcHLYTcHLYX",
    "cHLYcHLYPcHLYRXcHLYRcLITcLIXcLIcLIPcLIETcLIEXcLIEcLIEPcLATcLAXcLAcLAPcLUOTcLUOXcLUOcLUOPcLOT",
    "cLOXcLOcLOPcLEXcLEcLEPcLUTcLUXcLUcLUPcLURXcLURcLYTcLYXcLYcLYPcLYRXcLYRcGITcGIXcGIcGIPcGIET",
    "cGIEXcGIEcGIEPcGATcGAXcGAcGAPcGUOTcGUOXcGUOcGUOPcGOTcGOXcGOcGOPcGETcGEXcGEcGEPcGUTcGUXcGUcGUP",
    "cGURXcGURcKITcKIXcKIcKIPcKIEXcKIEcKIEPcKATcKAXcKAcKAPcKUOXcKUOcKUOPcKOTcKOXcKOcKOPcKETcKEXcKE",
    "cKEPcKUTcKUXcKUcKUPcKURXcKURcGGITcGGIXcGGIcGGIEXcGGIEcGGIEPcGGATcGGAXcGGAcGGAPcGGUOTcGGUOX",
    "cGGUOcGGUOPcGGOTcGGOXcGGOcGGOPcGGETcGGEXcGGEcGGEPcGGUTcGGUXcGGUcGGUPcGGURXcGGURcMGIEXcMGIE",
    "cMGATcMGAXcMGAcMGAPcMGUOXcMGUOcMGUOPcMGOTcMGOXcMGOcMGOPcMGEXcMGEcMGEPcMGUTcMGUXcMGUcMGUP",
    "cMGURXcMGURcHXITcHXIXcHXIcHXIPcHXIETcHXIEXcHXIEcHXIEPcHXATcHXAXcHXAcHXAPcHXUOTcHXUOXcHXUO",
    "cHXUOPcHXOTcHXOXcHXOcHXOPcHXEXcHXEcHXEPcNGIEXcNGIEcNGIEPcNGATcNGAXcNGAcNGAPcNGUOTcNGUOXcNGUO",
    "cNGOTcNGOXcNGOcNGOPcNGEXcNGEcNGEPcHITcHIEXcHIEcHATcHAXcHAcHAPcHUOTcHUOXcHUOcHUOPcHOTcHOXcHO",
    "cHOPcHEXcHEcHEPcWATcWAXcWAcWAPcWUOXcWUOcWUOPcWOXcWOcWOPcWEXcWEcWEPcZITcZIXcZIcZIPcZIEXcZIE",
    "cZIEPcZATcZAXcZAcZAPcZUOXcZUOcZUOPcZOTcZOXcZOcZOPcZEXcZEcZEPcZUTcZUXcZUcZUPcZURXcZURcZYTcZYX",
    "cZYcZYPcZYRXcZYRcCITcCIXcCIcCIPcCIETcCIEXcCIEcCIEPcCATcCAXcCAcCAPcCUOXcCUOcCUOPcCOTcCOXcCO",
    "cCOPcCEXcCEcCEPcCUTcCUXcCUcCUPcCURXcCURcCYTcCYXcCYcCYPcCYRXcCYRcZZITcZZIXcZZIcZZIPcZZIET",
    "cZZIEXcZZIEcZZIEPcZZATcZZAXcZZAcZZAPcZZOXcZZOcZZOPcZZEXcZZEcZZEPcZZUXcZZUcZZUPcZZURXcZZUR",
    "cZZYTcZZYXcZZYcZZYPcZZYRXcZZYRcNZITcNZIXcNZIcNZIPcNZIEXcNZIEcNZIEPcNZATcNZAXcNZAcNZAPcNZUOX",
    "cNZUOcNZOXcNZOPcNZEXcNZEcNZUXcNZUcNZUPcNZURXcNZURcNZYTcNZYXcNZYcNZYPcNZYRXcNZYRcSITcSIXcSI",
    "cSIPcSIEXcSIEcSIEPcSATcSAXcSAcSAPcSUOXcSUOcSUOPcSOTcSOXcSOcSOPcSEXcSEcSEPcSUTcSUXcSUcSUPcSURX",
    "cSURcSYTcSYXcSYcSYPcSYRXcSYRcSSITcSSIXcSSIcSSIPcSSIEXcSSIEcSSIEPcSSATcSSAXcSSAcSSAPcSSOTcSSOX",
    "cSSOcSSOPcSSEXcSSEcSSEPcSSUTcSSUXcSSUcSSUPcSSYTcSSYXcSSYcSSYPcSSYRXcSSYRcZHATcZHAXcZHAcZHAP",
    "cZHUOXcZHUOcZHUOPcZHOTcZHOXcZHOcZHOPcZHETcZHEXcZHEcZHEPcZHUTcZHUXcZHUcZHUPcZHURXcZHURcZHYT",
    "cZHYXcZHYcZHYPcZHYRXcZHYRcCHATcCHAXcCHAcCHAPcCHUOTcCHUOXcCHUOcCHUOPcCHOTcCHOXcCHOcCHOPcCHET",
    "cCHEXcCHEcCHEPcCHUXcCHUcCHUPcCHURXcCHURcCHYTcCHYXcCHYcCHYPcCHYRXcCHYRcRRAXcRRAcRRUOXcRRUO",
    "cRROTcRROXcRROcRROPcRRETcRREXcRREcRREPcRRUTcRRUXcRRUcRRUPcRRURXcRRURcRRYTcRRYXcRRYcRRYPcRRYRX",
    "cRRYRcNRATcNRAXcNRAcNRAPcNROXcNROcNROPcNRETcNREXcNREcNREPcNRUTcNRUXcNRUcNRUPcNRURXcNRURcNRYT",
    "cNRYXcNRYcNRYPcNRYRXcNRYRcSHATcSHAXcSHAcSHAPcSHUOXcSHUOcSHUOPcSHOTcSHOXcSHOcSHOPcSHETcSHEX",
    "cSHEcSHEPcSHUTcSHUXcSHUcSHUPcSHURXcSHURcSHYTcSHYXcSHYcSHYPcSHYRXcSHYRcRATcRAXcRAcRAPcRUOXcRUO",
    "cRUOPcROTcROXcROcROPcREXcREcREPcRUTcRUXcRUcRUPcRURXcRURcRYTcRYXcRYcRYPcRYRXcRYRcJITcJIXcJI",
    "cJIPcJIETcJIEXcJIEcJIEPcJUOTcJUOXcJUOcJUOPcJOTcJOXcJOcJOPcJUTcJUXcJUcJUPcJURXcJURcJYTcJYXcJY",
    "cJYPcJYRXcJYRcQITcQIXcQIcQIPcQIETcQIEXcQIEcQIEPcQUOTcQUOXcQUOcQUOPcQOTcQOXcQOcQOPcQUTcQUXcQU",
    "cQUPcQURXcQURcQYTcQYXcQYcQYPcQYRXcQYRcJJITcJJIXcJJIcJJIPcJJIETcJJIEXcJJIEcJJIEPcJJUOXcJJUO",
    "cJJUOPcJJOTcJJOXcJJOcJJOPcJJUTcJJUXcJJUcJJUPcJJURXcJJURcJJYTcJJYXcJJYcJJYPcNJITcNJIXcNJIcNJIP",
    "cNJIETcNJIEXcNJIEcNJIEPcNJUOXcNJUOcNJOTcNJOXcNJOcNJOPcNJUXcNJUcNJUPcNJURXcNJURcNJYTcNJYXcNJY",
    "cNJYPcNJYRXcNJYRcNYITcNYIXcNYIcNYIPcNYIETcNYIEXcNYIEcNYIEPcNYUOXcNYUOcNYUOPcNYOTcNYOXcNYO",
    "cNYOPcNYUTcNYUXcNYUcNYUPcXITcXIXcXIcXIPcXIETcXIEXcXIEcXIEPcXUOXcXUOcXOTcXOXcXOcXOPcXYTcXYXcXY",
    "cXYPcXYRXcXYRcYITcYIXcYIcYIPcYIETcYIEXcYIEcYIEPcYUOTcYUOXcYUOcYUOPcYOTcYOXcYOcYOPcYUTcYUXcYU",
    "cYUPcYURXcYURcYYTcYYXcYYcYYPcYYRXcYYR@A490bRADICAL QOTcLIcKITcNYIPcCYPcSSIcGGOPcGEPcMIcHXIT",
    "cLYRcBBUTcMOPcYOcPUTcHXUOcTATcGAcZUPcCYTcDDURcBURcGGUOcNYOPcTUcOPcJJUTcZOTcPYTcHMOcYITcVUR",
    "cSHYcVEPcZAcJOcNZUPcJJYcGOTcJJIEcWOcDUcSHURcLIEcCYcCUOPcCIPcHXOPcSHATcZURcSHOPcCHEcZZIETcNBIE",
    "cKE@A4D0aLISU LETTER BAcPAcPHAcDAcTAcTHAcGAcKAcKHAcJAcCAcCHAcDZAcTSAcTSHAcMAcNAcLAcSAcZHAcZA",
    "cNGAcHAcXAcHHAcFAcWAcSHAcYAcGHAcAcAEcEcEUcIcOcUcUEcUHcOEcTONE MYA TIdNA POdMYA CYAeBOeNAeJEU",
    "bPUNCTUATION COMMAcFULL STOPaVAI SYLLABLE EEcEENcHEEcWEEcWEENcPEEcBHEEcBEEcMBEEcKPEEcMGBEE",
    "cGBEEcFEEcVEEcTEEcTHEEcDHEEcDHHEEcLEEcREEcDEEcNDEEcSEEcSHEEcZEEcZHEEcCEEcJEEcNJEEcYEEcKEE",
    "cNGGEEcGEEcMEEcNEEcNYEEcIcINcHIcHINcWIcWINcPIcBHIcBIcMBIcKPIcMGBIcGBIcFIcVIcTIcTHIcDHIcDHHI",
    "cLIcRIcDIcNDIcSIcSHIcZIcZHIcCIcJIcNJIcYIcKIcNGGIcGIcMIcNIcNYIcAcANcNGANcHAcHANcWAcWANcPAcBHA",
    "cBAcMBAcKPAcKPANcMGBAcGBAcFAcVAcTAcTHAcDHAcDHHAcLAcRAcDAcNDAcSAcSHAcZAcZHAcCAcJAcNJAcYAcKA",
    "cKANcNGGAcGAcMAcNAcNYAcOOcOONcHOOcWOOcWOONcPOOcBHOOcBOOcMBOOcKPOOcMGBOOcGBOOcFOOcVOOcTOOcTHOO",
    "cDHOOcDHHOOcLOOcROOcDOOcNDOOcSOOcSHOOcZOOcZHOOcCOOcJOOcNJOOcYOOcKOOcNGGOOcGOOcMOOcNOOcNYOOcU",
    "cUNcHUcHUNcWUcWUNcPUcBHUcBUcMBUcKPUcMGBUcGBUcFUcVUcTUcTHUcDHUcDHHUcLUcRUcDUcNDUcSUcSHUcZUcZHU",
    "cCUcJUcNJUcYUcKUcNGGUcGUcMUcNUcNYUcOcONcNGONcHOcHONcWOcWONcPOcBHOcBOcMBOcKPOcMGBOcGBOcGBONcFO",
    "cVOcTOcTHOcDHOcDHHOcLOcROcDOcNDOcSOcSHOcZOcZHOcCOcJOcNJOcYOcKOcNGGOcGOcMOcNOcNYOcEcENcNGENcHE",
    "cHENcWEcWENcPEcBHEcBEcMBEcKPEcKPENcMGBEcGBEcGBENcFEcVEcTEcTHEcDHEcDHHEcLEcREcDEcNDEcSEcSHEcZE",
    "cZHEcCEcJEcNJEcYEcKEcNGGEcNGGENcGEcGENcMEcNEcNYEcNGcLENGTHENERbCOMMAbFULL STOPbQUESTION MARK",
    "bSYLLABLE NDOLE FAdKAdSOObSYMBOL FEENGcKEENGcTINGcNIIcBANGcFAAcTAAcDANGcDOONGcKUNGcTONGcDO-O",
    "cJONGbDIGIT ZEROcONEcTWOcTHREEcFOURcFIVEcSIXcSEVENcEIGHTcNINEbSYLLABLE NDOLE MAdDO",
    "@A640aCYRILLIC CAPITAL LETTER ZEMLYAbSMALL ~bCAPITAL LETTER DZELObSMALL ~",
    "bCAPITAL LETTER REVERSED DZEbSMALL ~bCAPITAL LETTER IOTAbSMALL ~bCAPITAL LETTER DJERVbSMALL ~",
    "bCAPITAL LETTER MONOGRAPH UKbSMALL ~bCAPITAL LETTER BROAD OMEGAbSMALL ~",
    "bCAPITAL LETTER NEUTRAL YERbSMALL ~bCAPITAL LETTER YERU WITH BACK YERbSMALL ~",
    "bCAPITAL LETTER IOTIFIED YATbSMALL ~bCAPITAL LETTER REVERSED YUbSMALL ~",
    "bCAPITAL LETTER IOTIFIED AbSMALL ~bCAPITAL LETTER CLOSED LITTLE YUSbSMALL ~",
    "bCAPITAL LETTER BLENDED YUSbSMALL ~bCAPITAL LETTER IOTIFIED CLOSED LITTLE YUSbSMALL ~",
    "bCAPITAL LETTER YNbSMALL ~bCAPITAL LETTER REVERSED TSEbSMALL ~bCAPITAL LETTER SOFT DEbSMALL ~",
    "bCAPITAL LETTER SOFT ELbSMALL ~bCAPITAL LETTER SOFT EMbSMALL ~bCAPITAL LETTER MONOCULAR O",
    "bSMALL ~bCAPITAL LETTER BINOCULAR ObSMALL ~bCAPITAL LETTER DOUBLE MONOCULAR ObSMALL ~",
    "bLETTER MULTIOCULAR OaCOMBINING CYRILLIC VZMETcTEN MILLIONS SIGNcHUNDRED ~cTHOUSAND ~",
    "aSLAVONIC ASTERISKaCOMBINING CYRILLIC LETTER UKRAINIAN IEdIdYIdUdHARD SIGNdYERUdSOFT SIGN",
    "dOMEGAcKAVYKAcPAYEROKaCYRILLIC KAVYKAbPAYEROKbCAPITAL LETTER DWEbSMALL ~bCAPITAL LETTER DZWE",
    "bSMALL ~bCAPITAL LETTER ZHWEbSMALL ~bCAPITAL LETTER CCHEbSMALL ~bCAPITAL LETTER DZZEbSMALL ~",
    "bCAPITAL LETTER TE WITH MIDDLE HOOKbSMALL ~bCAPITAL LETTER TWEbSMALL ~bCAPITAL LETTER TSWE",
    "bSMALL ~bCAPITAL LETTER TSSEbSMALL ~bCAPITAL LETTER TCHEbSMALL ~bCAPITAL LETTER HWEbSMALL ~",
    "bCAPITAL LETTER SHWEbSMALL ~bCAPITAL LETTER DOUBLE ObSMALL ~bCAPITAL LETTER CROSSED ObSMALL ~",
    "aMODIFIER LETTER CYRILLIC HARD SIGNdSOFT ~aCOMBINING CYRILLIC LETTER EFdIOTIFIED E",
    "aBAMUM LETTER AcKAcUcKUcEEcREEcTAEcOcNYIcIcLAcPAcRIIcRIEEcLEEEEcMEEEEcTAAcNDAAcNJAEMcMcSUUcMU",
    "cSHIIcSIcSHEUXcSEUXcKYEEcKETcNUAEcNUcNJUAEcYOQcSHUcYUQcYAcNSHAcKEUXcPEUXcNJEEcNTEEcPUEcWUE",
    "cPEEcFEEcRUcLUcMIcNIcREUXcRAEcKENcNGKWAENcNGGAcNGAcSHOcPUAEcFUcFOMcWAcNAcLIcPIcLOQcKOcMBEN",
    "cRENcMENcMAcTIcKIcMOcMBAAcTETcKPAcTENcNTUUcSAMBAcFAAMAEcKOVUUcKOGHOMbCOMBINING MARK KOQNDON",
    "dTUKWENTISbNJAEMLIbFULL STOPbCOLONbCOMMAbSEMICOLONbQUESTION MARK",
    "@A700aMODIFIER LETTER CHINESE TONE YIN PINGeYANG ~eYIN SHANGeYANG ~eYIN QUeYANG ~eYIN RU",
    "eYANG ~cEXTRA-HIGH DOTTED TONE BARcHIGH DOTTED TONE BARcMID ~cLOW ~cEXTRA-LOW DOTTED TONE BAR",
    "dHIGH DOTTED LEFT-STEM TONE BARcHIGH DOTTED LEFT-STEM TONE BARcMID ~cLOW ~",
    "cEXTRA-LOW DOTTED LEFT-STEM TONE BARdHIGH LEFT-STEM TONE BARcHIGH LEFT-STEM TONE BARcMID ~",
    "cLOW ~cEXTRA-LOW LEFT-STEM TONE BARcDOT VERTICAL BARdSLASHdHORIZONTAL BAR",
    "cLOWER RIGHT CORNER ANGLEcRAISED UP ARROWdDOWN ~dEXCLAMATION MARKdINVERTED EXCLAMATION MARK",
    "cLOW ~cSTRESS AND HIGH TONEeLOW ~aLATIN CAPITAL LETTER EGYPTOLOGICAL ALEFbSMALL ~",
    "bCAPITAL LETTER EGYPTOLOGICAL AINbSMALL ~bCAPITAL LETTER HENGbSMALL ~bCAPITAL LETTER TZ",
    "bSMALL ~bCAPITAL LETTER TRESILLObSMALL ~bCAPITAL LETTER CUATRILLObSMALL ~",
    "bCAPITAL LETTER CUATRILLO WITH COMMAbSMALL ~bLETTER SMALL CAPITAL FeSbCAPITAL LETTER AA",
    "bSMALL ~bCAPITAL LETTER AObSMALL ~bCAPITAL LETTER AUbSMALL ~bCAPITAL LETTER AVbSMALL ~",
    "bCAPITAL LETTER AV WITH HORIZONTAL BARbSMALL ~bCAPITAL LETTER AYbSMALL ~",
    "bCAPITAL LETTER REVERSED C WITH DOTbSMALL ~bCAPITAL LETTER K WITH STROKEbSMALL ~",
    "bCAPITAL LETTER K WITH DIAGONAL STROKEbSMALL ~",
    "bCAPITAL LETTER K WITH STROKE AND DIAGONAL STROKEbSMALL ~bCAPITAL LETTER BROKEN LbSMALL ~",
    "bCAPITAL LETTER L WITH HIGH STROKEbSMALL ~bCAPITAL LETTER O WITH LONG STROKE OVERLAYbSMALL ~",
    "bCAPITAL LETTER O WITH LOOPbSMALL ~bCAPITAL LETTER OObSMALL ~",
    "bCAPITAL LETTER P WITH STROKE THROUGH DESCENDERbSMALL ~bCAPITAL LETTER P WITH FLOURISH",
    "bSMALL ~bCAPITAL LETTER P WITH SQUIRREL TAILbSMALL ~",
    "bCAPITAL LETTER Q WITH STROKE THROUGH DESCENDERbSMALL ~bCAPITAL LETTER Q WITH DIAGONAL STROKE",
    "bSMALL ~bCAPITAL LETTER R ROTUNDAbSMALL ~bCAPITAL LETTER RUM ~bSMALL ~",
    "bCAPITAL LETTER V WITH DIAGONAL STROKEbSMALL ~bCAPITAL LETTER VYbSMALL ~",
    "bCAPITAL LETTER VISIGOTHIC ZbSMALL ~bCAPITAL LETTER THORN WITH STROKEbSMALL ~",
    "bCAPITAL LETTER THORN WITH STROKE THROUGH DESCENDERbSMALL ~bCAPITAL LETTER VENDbSMALL ~",
    "bCAPITAL LETTER ETbSMALL ~bCAPITAL LETTER ISbSMALL ~bCAPITAL LETTER CONbSMALL ~",
    "aMODIFIER LETTER USaLATIN SMALL LETTER DUMdLUMdMUMdNUMdRUMbLETTER SMALL CAPITAL RUM",
    "bSMALL LETTER TUMdUMbCAPITAL LETTER INSULAR DbSMALL ~bCAPITAL LETTER INSULAR FbSMALL ~",
    "bCAPITAL LETTER INSULAR GdTURNED INSULAR GbSMALL ~bCAPITAL LETTER TURNED LbSMALL ~",
    "bCAPITAL LETTER INSULAR RbSMALL ~bCAPITAL LETTER INSULAR SbSMALL ~bCAPITAL LETTER INSULAR T",
    "bSMALL ~aMODIFIER LETTER LOW CIRCUMFLEX ACCENTcCOLONcSHORT EQUALS SIGN",
    "aLATIN CAPITAL LETTER SALTILLObSMALL ~bCAPITAL LETTER TURNED H",
    "bSMALL LETTER L WITH RETROFLEX HOOK AND BELTbLETTER SINOLOGICAL DOT",
    "bCAPITAL LETTER N WITH DESCENDERbSMALL ~bCAPITAL LETTER C WITH BARbSMALL ~fPALATAL HOOKdH ~",
    "bCAPITAL LETTER B WITH FLOURISHbSMALL ~bCAPITAL LETTER F WITH STROKEbSMALL ~",
    "bCAPITAL LETTER VOLAPUK AEbSMALL ~bCAPITAL LETTER VOLAPUK OEbSMALL ~",
    "bCAPITAL LETTER VOLAPUK UEbSMALL ~bCAPITAL LETTER G WITH OBLIQUE STROKEbSMALL ~",
    "bCAPITAL LETTER K ~bSMALL ~bCAPITAL LETTER N ~bSMALL ~bCAPITAL LETTER R ~bSMALL ~",
    "bCAPITAL LETTER S ~bSMALL ~bCAPITAL LETTER H WITH HOOKdREVERSED OPEN EdSCRIPT GdL WITH BELT",
    "dSMALL CAPITAL IbLETTER SMALL CAPITAL QbCAPITAL LETTER TURNED KeTdJ WITH CROSSED-TAILdCHI",
    "dBETAbSMALL ~bCAPITAL LETTER OMEGAbSMALL ~bCAPITAL LETTER U WITH STROKEbSMALL ~",
    "bCAPITAL LETTER GLOTTAL AbSMALL ~bCAPITAL LETTER GLOTTAL IbSMALL ~bCAPITAL LETTER GLOTTAL U",
    "bSMALL ~bCAPITAL LETTER OLD POLISH ObSMALL ~bCAPITAL LETTER ANGLICANA WbSMALL ~",
    "bCAPITAL LETTER C WITH PALATAL HOOKdS WITH HOOKdZ WITH PALATAL HOOK",
    "dD WITH SHORT STROKE OVERLAYbSMALL ~bCAPITAL LETTER S ~bSMALL ~",
    "@A7D0bCAPITAL LETTER CLOSED INSULAR GbSMALL ~@A7D3dDOUBLE THORN@A7D5eWYNN",
    "bCAPITAL LETTER MIDDLE SCOTS SbSMALL ~bCAPITAL LETTER SIGMOID SbSMALL ~",
    "@A7F2aMODIFIER LETTER CAPITAL CdFdQaLATIN CAPITAL LETTER REVERSED HALF HbSMALL ~",
    "bEPIGRAPHIC LETTER SIDEWAYS IaMODIFIER LETTER CAPITAL H WITH STROKEcSMALL LIGATURE OE",
    "aLATIN LETTER SMALL CAPITAL TURNED MbEPIGRAPHIC LETTER REVERSED FePdINVERTED MdI LONGA",
    "dARCHAIC MaSYLOTI NAGRI LETTER AdIcSIGN DVISVARAcLETTER UdEdOcSIGN HASANTAcLETTER KOdKHOdGO",
    "dGHOcSIGN ANUSVARAcLETTER COdCHOdJOdJHOdTTOdTTHOdDDOdDDHOdTOdTHOdDOdDHOdNOdPOdPHOdBOdBHOdMO",
    "dROdLOdRROdSOdHOcVOWEL SIGN AeIeUeEeOOcPOETRY MARK-1e2e3e4cSIGN ALTERNATE HASANTA",
    "@A830aNORTH INDIC FRACTION ONE QUARTEReHALFdTHREE QUARTERSdONE SIXTEENTHeEIGHTH",
    "dTHREE SIXTEENTHScQUARTER MARKcPLACEHOLDER ~cRUPEE ~cQUANTITY ~@A840aPHAGS-PA LETTER KAdKHA",
    "dGAdNGAdCAdCHAdJAdNYAdTAdTHAdDAdNAdPAdPHAdBAdMAdTSAdTSHAdDZAdWAdZHAdZAdSMALL AdYAdRAdLAdSHA",
    "dSAdHAdAdIdUdEdOdQAdXAdFAdGGAdEEcSUBJOINED LETTER WAeYAcLETTER TTAdTTHAdDDAdNNAdALTERNATE YA",
    "dVOICELESS SHAdVOICED HAdASPIRATED FAcSUBJOINED LETTER RAcSUPERFIXED ~cLETTER CANDRABINDU",
    "cSINGLE HEAD MARKcDOUBLE ~cMARK SHADdDOUBLE SHAD@A880aSAURASHTRA SIGN ANUSVARAcVISARGA",
    "bLETTER AcAAcIcIIcUcUUcVOCALIC RdRRdLdLLcEcEEcAIcOcOOcAUcKAcKHAcGAcGHAcNGAcCAcCHAcJAcJHAcNYA",
    "cTTAcTTHAcDDAcDDHAcNNAcTAcTHAcDAcDHAcNAcPAcPHAcBAcBHAcMAcYAcRAcLAcVAcSHAcSSAcSAcHAcLLA",
    "bCONSONANT SIGN HAARUbVOWEL SIGN AAdIdIIdUdUUdVOCALIC ReRReLeLLdEdEEdAIdOdOOdAUbSIGN VIRAMA",
    "cCANDRABINDU@A8CEbDANDAbDOUBLE DANDAbDIGIT ZEROcONEcTWOcTHREEcFOURcFIVEcSIXcSEVENcEIGHTcNINE",
    "@A8E0aCOMBINING DEVANAGARI DIGIT ZEROdONEdTWOdTHREEdFOURdFIVEdSIXdSEVENdEIGHTdNINEcLETTER AdU",
    "dKAdNAdPAdRAdVIcSIGN AVAGRAHAaDEVANAGARI SIGN SPACING CANDRABINDUcCANDRABINDU VIRAMA",
    "cDOUBLE CANDRABINDU VIRAMAcCANDRABINDU TWOdTHREEdAVAGRAHAcPUSHPIKAbGAP FILLERbCARET",
    "bHEADSTROKEbSIGN SIDDHAMbJAIN OMbLETTER AYbVOWEL SIGN AYaKAYAH LI DIGIT ZEROdONEdTWOdTHREE",
    "dFOURdFIVEdSIXdSEVENdEIGHTdNINEcLETTER KAdKHAdGAdNGAdSAdSHAdZAdNYAdTAdHTAdNAdPAdPHAdMAdDAdBA",
    "dRAdYAdLAdWAdTHAdHAdVAdCAdAdOEdIdOOcVOWEL UEdEdUdEEdOcTONE PLOPHUdCALYAdCALYA PLOPHUcSIGN CWI",
    "dSHYAaREJANG LETTER KAcGAcNGAcTAcDAcNAcPAcBAcMAcCAcJAcNYAcSAcRAcLAcYAcWAcHAcMBAcNGGAcNDAcNYJA",
    "cAbVOWEL SIGN IdUdEdAIdOdAUdEUdEAbCONSONANT SIGN NGdNdRdHbVIRAMA@A95FbSECTION MARK",
    "aHANGUL CHOSEONG TIKEUT-MIEUMdPIEUPdSIOSdCIEUCcRIEUL-KIYEOKdSSANGKIYEOKdTIKEUTdSSANGTIKEUT",
    "dMIEUMdPIEUPdSSANGPIEUPdKAPYEOUNPIEUPdSIOSdCIEUCdKHIEUKHcMIEUM-KIYEOKdTIKEUTdSIOS",
    "cPIEUP-SIOS-THIEUTHdKHIEUKHdHIEUHcSSANGSIOS-PIEUPcIEUNG-RIEULdHIEUHcSSANGCIEUC-~cSSANGTHIEUTH",
    "cPHIEUPH-HIEUHcHIEUH-SIOScSSANGYEORINHIEUH@A980aJAVANESE SIGN PANYANGGAcCECAKcLAYARcWIGNYAN",
    "bLETTER AcI KAWIcIcIIcUcPA CEREKcNGA LELETdLELET RASWADIcEcAIcOcKAcKA SASAKdMURDAcGAcGA MURDA",
    "cNGAcCAcCA MURDAcJAcNYA MURDAcJA MAHAPRANAcNYAcTTAcTTA MAHAPRANAcDDAcDDA MAHAPRANAcNA MURDA",
    "cTAcTA MURDAcDAcDA MAHAPRANAcNAcPAcPA MURDAcBAcBA MURDAcMAcYAcRAcRA AGUNGcLAcWAcSA MURDA",
    "dMAHAPRANAcSAcHAbSIGN CECAK TELUbVOWEL SIGN TARUNGdTOLONGdWULUdWULU MELIKdSUKUdSUKU MENDUT",
    "dTALINGdDIRGA MUREdPEPETbCONSONANT SIGN KERETdPENGKALdCAKRAbPANGKONbLEFT RERENGGANbRIGHT ~",
    "bPADA ANDAPcMADYAcLUHURcWINDUcPANGKATcLINGSAcLUNGSIcADEGcADEG ADEGcPISELEH",
    "bTURNED PADA PISELEH@A9CFbPANGRANGKEPbDIGIT ZEROcONEcTWOcTHREEcFOURcFIVEcSIXcSEVENcEIGHTcNINE",
    "@A9DEbPADA TIRTA TUMETEScISEN-ISENaMYANMAR LETTER SHAN GHAdCHAdJHAdNNAdBHAbSIGN SHAN SAW",
    "bMODIFIER LETTER SHAN REDUPLICATIONbLETTER TAI LAING NYAeFAeGAeGHAeJAeJHAeDDAeDDHAeNNA",
    "bTAI LAING DIGIT ZEROeONEeTWOeTHREEeFOUReFIVEeSIXeSEVENeEIGHTeNINEbLETTER TAI LAING LLAeDA",
    "eDHAeBAeBHA@AA00aCHAM LETTER AcIcUcEcAIcOcKAcKHAcGAcGHAcNGUEcNGAcCHAcCHHAcJAcJHAcNHUEcNHA",
    "cNHJAcTAcTHAcDAcDHAcNUEcNAcDDAcPAcPPAcPHAcBAcBHAcMUEcMAcBBAcYAcRAcLAcVAcSSAcSAcHA",
    "bVOWEL SIGN AAdIdIIdEIdUdOEdOdAIdAUdUEbCONSONANT SIGN YAdRAdLAdWA@AA40bLETTER FINAL KdGdNG",
    "bCONSONANT SIGN FINAL NGbLETTER FINAL CHdTdNdPdYdRdLdSSbCONSONANT SIGN FINAL MeH",
    "@AA50bDIGIT ZEROcONEcTWOcTHREEcFOURcFIVEcSIXcSEVENcEIGHTcNINE@AA5CbPUNCTUATION SPIRALcDANDA",
    "cDOUBLE DANDAcTRIPLE ~aMYANMAR LETTER KHAMTI GAdCAdCHAdJAdJHAdNYAdTTAdTTHAdDDAdDDHAdDHAdNAdSA",
    "dHAdHHAdFAbMODIFIER LETTER KHAMTI REDUPLICATIONbLETTER KHAMTI XAdZAdRAbLOGOGRAM KHAMTI OAYdQN",
    "dHMbSYMBOL AITON EXCLAMATIONdONEdTWObLETTER AITON RAbSIGN PAO KAREN TONEcTAI LAING TONE-2f5",
    "bLETTER SHWE PALAUNG CHAeSHAaTAI VIET LETTER LOW KOdHIGH ~dLOW KHOdHIGH ~dLOW KHHOdHIGH ~",
    "dLOW GOdHIGH ~dLOW NGOdHIGH ~dLOW COdHIGH ~dLOW CHOdHIGH ~dLOW SOdHIGH ~dLOW NYOdHIGH ~",
    "dLOW DOdHIGH ~dLOW TOdHIGH ~dLOW THOdHIGH ~dLOW NOdHIGH ~dLOW BOdHIGH ~dLOW POdHIGH ~dLOW PHO",
    "dHIGH ~dLOW FOdHIGH ~dLOW MOdHIGH ~dLOW YOdHIGH ~dLOW ROdHIGH ~dLOW LOdHIGH ~dLOW VOdHIGH ~",
    "dLOW HOdHIGH ~dLOW OdHIGH OcMAI KANGcVOWEL AAdIdUEdUdEdOcMAI KHITcVOWEL IAdUEAdUAdAUEdAYdAN",
    "dAMcTONE MAI EKeNUENGeTHOeSONG@AADBcSYMBOL KONdNUENGdSAMdHO HOIdKOI KOIaMEETEI MAYEK LETTER E",
    "dOdCHAdNYAdTTAdTTHAdDDAdDDHAdNNAdSHAdSSAcVOWEL SIGN IIeUUeAAIeAUeAAUcCHEIKHANcAHANG KHUDAM",
    "cANJIcSYLLABLE REPETITION MARKcWORD ~cVOWEL SIGN VISARGAcVIRAMA@AB01aETHIOPIC SYLLABLE TTHU",
    "cTTHIcTTHAAcTTHEEcTTHEcTTHO@AB09cDDHUcDDHIcDDHAAcDDHEEcDDHEcDDHO@AB11cDZUcDZIcDZAAcDZEEcDZE",
    "cDZO@AB20cCCHHAcCCHHUcCCHHIcCCHHAAcCCHHEEcCCHHEcCCHHO@AB28cBBAcBBUcBBIcBBAAcBBEEcBBEcBBO",
    "@AB30aLATIN SMALL LETTER BARRED ALPHAdA REVERSED-SCHWAdBLACKLETTER EdBARRED EdE WITH FLOURISH",
    "dLENIS FdSCRIPT G WITH CROSSED-TAILdL WITH INVERTED LAZY SfDOUBLE MIDDLE TILDEfMIDDLE RING",
    "dM WITH CROSSED-TAILdN ~dENG ~dBLACKLETTER OeO WITH STROKEdOPEN ~dINVERTED OE",
    "dTURNED OE WITH STROKEgHORIZONTAL STROKEeO OPEN-OgO WITH STROKEdSTIRRUP R",
    "bLETTER SMALL CAPITAL R WITH RIGHT LEGbSMALL LETTER R WITHOUT HANDLEdDOUBLE R",
    "dR WITH CROSSED-TAILdDOUBLE R WITH CROSSED-TAILdSCRIPT ReR WITH RINGdBASELINE ESH",
    "dU WITH SHORT RIGHT LEGeBAR WITH SHORT RIGHT LEGdUIdTURNED UIdU WITH LEFT HOOKdCHI",
    "dCHI WITH LOW RIGHT RINGgLEFT SERIFdX WITH LOW RIGHT RINGfLONG LEFT LEG",
    "hLEG AND LOW RIGHT RINGiWITH SERIFdY WITH SHORT RIGHT LEGaMODIFIER BREVE WITH INVERTED BREVE",
    "bLETTER SMALL HENGdL WITH INVERTED LAZY SfMIDDLE TILDEdU WITH LEFT HOOK",
    "aLATIN SMALL LETTER SAKHA YATdIOTIFIED EdOPEN OEdUOdINVERTED ALPHA",
    "aGREEK LETTER SMALL CAPITAL OMEGAaLATIN SMALL LETTER DZ DIGRAPH WITH RETROFLEX HOOKdTS ~",
    "dTURNED R WITH MIDDLE TILDEaMODIFIER LETTER SMALL TURNED WcLEFT TACKcRIGHT ~",
    "@AB70aCHEROKEE SMALL LETTER AdEdIdOdUdVdGAdKAdGEdGIdGOdGUdGVdHAdHEdHIdHOdHUdHVdLAdLEdLIdLOdLU",
    "dLVdMAdMEdMIdMOdMUdNAdHNAdNAHdNEdNIdNOdNUdNVdQUAdQUEdQUIdQUOdQUUdQUVdSAdSdSEdSIdSOdSUdSVdDA",
    "dTAdDEdTEdDIdTIdDOdDUdDVdDLAdTLAdTLEdTLIdTLOdTLUdTLVdTSAdTSEdTSIdTSOdTSUdTSVdWAdWEdWIdWOdWU",
    "dWVdYAaMEETEI MAYEK LETTER KOKdSAMdLAIdMITdPAdNAdCHILdTILdKHOUdNGOUdTHOUdWAIdYANGdHUKdUNdI",
    "dPHAMdATIYAdGOKdJHAMdRAIdBAdJILdDILdGHOUdDHOUdBHAMdKOK LONSUMdLAI ~dMIT ~dPA ~dNA ~dTIL ~",
    "dNGOU ~dI ~cVOWEL SIGN ONAPeINAPeANAPeYENAPeSOUNAPeUNAPeCHEINAPeNUNGcCHEIKHEIcLUM IYEKcAPUN ~",
    "@ABF0cDIGIT ZEROdONEdTWOdTHREEdFOURdFIVEdSIXdSEVENdEIGHTdNINE@D7B0aHANGUL JUNGSEONG O-YEOdO-I",
    "cYO-AdAEdEOcU-YEOdI-IcYU-AEdOcEU-AdEOdEdOcI-YA-OdYAEdYEOdYEdO-IdYOdYUdIcARAEA-AdE",
    "@D7CBbJONGSEONG NIEUN-RIEULdCHIEUCHcSSANGTIKEUTcSSANGTIKEUT-PIEUPcTIKEUT-~dSIOSdSIOS-KIYEOK",
    "dCIEUCdCHIEUCHdTHIEUTHcRIEUL-SSANGKIYEOKdKIYEOK-HIEUHcSSANGRIEUL-KHIEUKHcRIEUL-MIEUM-HIEUH",
    "dPIEUP-TIKEUTePHIEUPHdYESIEUNGdYEORINHIEUH-HIEUHcKAPYEOUNRIEULcMIEUM-NIEUNdSSANGNIEUN",
    "cSSANGMIEUMcMIEUM-PIEUP-SIOSdCIEUCcPIEUP-TIKEUTdRIEUL-PHIEUPHdMIEUMcSSANGPIEUP",
    "cPIEUP-SIOS-TIKEUTdCIEUCdCHIEUCHcSIOS-MIEUMdKAPYEOUNPIEUPcSSANGSIOS-KIYEOKdTIKEUT",
    "cSIOS-PANSIOSdCIEUCdCHIEUCHdTHIEUTHdHIEUHcPANSIOS-PIEUPdKAPYEOUNPIEUPcYESIEUNG-MIEUMdHIEUH",
    "cCIEUC-PIEUPdSSANGPIEUPcSSANGCIEUCcPHIEUPH-SIOSdTHIEUTH@FB00aLATIN SMALL LIGATURE FFdFIdFL",
    "dFFIdFFLdLONG S TdST@FB13aARMENIAN SMALL LIGATURE MEN NOWeECHeINIdVEW NOWdMEN XEH",
    "@FB1DaHEBREW LETTER YOD WITH HIRIQbPOINT JUDEO-SPANISH VARIKAbLIGATURE YIDDISH YOD YOD PATAH",
    "bLETTER ALTERNATIVE AYINcWIDE ALEFdDALETdHEdKAFdLAMEDdFINAL MEMdRESHdTAV",
    "cALTERNATIVE PLUS SIGNcSHIN WITH SHIN DOTeSIN ~eDAGESH AND SHIN DOTgSIN ~cALEF WITH PATAH",
    "eQAMATSeMAPIQcBET WITH DAGESHcGIMEL ~cDALET ~cHE WITH MAPIQcVAV WITH DAGESHcZAYIN ~",
    "@FB38cTET ~cYOD ~cFINAL KAF WITH DAGESHcKAF WITH DAGESHcLAMED ~@FB3EcMEM ~@FB40cNUN ~",
    "cSAMEKH ~@FB43cFINAL PE WITH DAGESHcPE WITH DAGESH@FB46cTSADI ~cQOF ~cRESH ~cSHIN ~cTAV ~",
    "cVAV WITH HOLAMcBET WITH RAFEcKAF ~cPE ~bLIGATURE ALEF LAMED",
    "aARABIC LETTER ALEF WASLA ISOLATED FORMeFINAL ~cBEEH ISOLATED FORMdFINAL ~dINITIAL ~dMEDIAL ~",
    "cPEH ISOLATED ~dFINAL ~dINITIAL ~dMEDIAL ~cBEHEH ISOLATED ~dFINAL ~dINITIAL ~dMEDIAL ~",
    "cTTEHEH ISOLATED ~dFINAL ~dINITIAL ~dMEDIAL ~cTEHEH ISOLATED ~dFINAL ~dINITIAL ~dMEDIAL ~",
    "cTTEH ISOLATED ~dFINAL ~dINITIAL ~dMEDIAL ~cVEH ISOLATED ~dFINAL ~dINITIAL ~dMEDIAL ~",
    "cPEHEH ISOLATED ~dFINAL ~dINITIAL ~dMEDIAL ~cDYEH ISOLATED ~dFINAL ~dINITIAL ~dMEDIAL ~",
    "cNYEH ISOLATED ~dFINAL ~dINITIAL ~dMEDIAL ~cTCHEH ISOLATED ~dFINAL ~dINITIAL ~dMEDIAL ~",
    "cTCHEHEH ISOLATED ~dFINAL ~dINITIAL ~dMEDIAL ~cDDAHAL ISOLATED ~dFINAL ~cDAHAL ISOLATED ~",
    "dFINAL ~cDUL ISOLATED ~dFINAL ~cDDAL ISOLATED ~dFINAL ~cJEH ISOLATED ~dFINAL ~",
    "cRREH ISOLATED ~dFINAL ~cKEHEH ISOLATED ~dFINAL ~dINITIAL ~dMEDIAL ~cGAF ISOLATED ~dFINAL ~",
    "dINITIAL ~dMEDIAL ~cGUEH ISOLATED ~dFINAL ~dINITIAL ~dMEDIAL ~cNGOEH ISOLATED ~dFINAL ~",
    "dINITIAL ~dMEDIAL ~cNOON GHUNNA ISOLATED FORMeFINAL ~cRNOON ISOLATED FORMdFINAL ~dINITIAL ~",
    "dMEDIAL ~cHEH WITH YEH ABOVE ISOLATED FORMgFINAL ~dGOAL ISOLATED FORMeFINAL ~eINITIAL ~",
    "eMEDIAL ~dDOACHASHMEE ISOLATED ~eFINAL ~eINITIAL ~eMEDIAL ~cYEH BARREE ISOLATED ~eFINAL ~",
    "eWITH HAMZA ABOVE ISOLATED FORMhFINAL ~bSYMBOL DOT ABOVEdBELOWcTWO DOTS ABOVEeBELOW",
    "cTHREE DOTS ABOVEeBELOWePOINTING DOWNWARDS ABOVEgBELOWcFOUR DOTS ABOVEeBELOW",
    "cDOUBLE VERTICAL BAR BELOWcTWO DOTS VERTICALLY ABOVEfBELOWcRINGcSMALL TAH ABOVEeBELOW",
    "cWASLA ABOVE@FBD3bLETTER NG ISOLATED FORMdFINAL ~dINITIAL ~dMEDIAL ~cU ISOLATED ~dFINAL ~",
    "cOE ISOLATED ~dFINAL ~cYU ISOLATED ~dFINAL ~cU WITH HAMZA ABOVE ISOLATED FORM",
    "cVE ISOLATED FORMdFINAL ~cKIRGHIZ OE ISOLATED FORMeFINAL ~dYU ISOLATED ~eFINAL ~",
    "cE ISOLATED FORMdFINAL ~dINITIAL ~dMEDIAL ~cUIGHUR KAZAKH KIRGHIZ ALEF MAKSURA INITIAL FORM",
    "hMEDIAL ~bLIGATURE YEH WITH HAMZA ABOVE WITH ALEF ISOLATED FORMiFINAL ~hAE ISOLATED ~iFINAL ~",
    "hWAW ISOLATED ~iFINAL ~hU ISOLATED ~iFINAL ~hOE ISOLATED ~iFINAL ~hYU ISOLATED ~iFINAL ~",
    "hE ISOLATED ~iFINAL ~iINITIAL ~",
    "cUIGHUR KIRGHIZ YEH WITH HAMZA ABOVE WITH ALEF MAKSURA ISOLATED FORMlFINAL ~lINITIAL ~",
    "bLETTER FARSI YEH ISOLATED FORMeFINAL ~eINITIAL ~eMEDIAL ~",
    "bLIGATURE YEH WITH HAMZA ABOVE WITH JEEM ISOLATED FORMhHAH ~hMEEM ~",
    "hALEF MAKSURA ISOLATED FORMhYEH ISOLATED FORMcBEH WITH JEEM ISOLATED FORMeHAH ~eKHAH ~eMEEM ~",
    "eALEF MAKSURA ISOLATED FORMeYEH ISOLATED FORMcTEH WITH JEEM ~eHAH ~eKHAH ~eMEEM ~",
    "eALEF MAKSURA ISOLATED FORMeYEH ISOLATED FORMcTHEH WITH JEEM ~eMEEM ~",
    "eALEF MAKSURA ISOLATED FORMeYEH ISOLATED FORMcJEEM WITH HAH ~eMEEM ~cHAH WITH JEEM ~eMEEM ~",
    "cKHAH WITH JEEM ~eHAH ~eMEEM ~cSEEN WITH JEEM ~eHAH ~eKHAH ~eMEEM ~cSAD WITH HAH ~eMEEM ~",
    "cDAD WITH JEEM ~eHAH ~eKHAH ~eMEEM ~cTAH WITH HAH ~eMEEM ~cZAH ~cAIN WITH JEEM ~eMEEM ~",
    "cGHAIN WITH JEEM ~eMEEM ~cFEH WITH JEEM ~eHAH ~eKHAH ~eMEEM ~eALEF MAKSURA ISOLATED FORM",
    "eYEH ISOLATED FORMcQAF WITH HAH ~eMEEM ~eALEF MAKSURA ISOLATED FORMeYEH ISOLATED FORM",
    "cKAF WITH ALEF ~eJEEM ~eHAH ~eKHAH ~eLAM ~eMEEM ~eALEF MAKSURA ISOLATED FORM",
    "eYEH ISOLATED FORMcLAM WITH JEEM ~eHAH ~eKHAH ~eMEEM ~eALEF MAKSURA ISOLATED FORM",
    "eYEH ISOLATED FORMcMEEM WITH JEEM ~eHAH ~eKHAH ~eMEEM ~eALEF MAKSURA ISOLATED FORM",
    "eYEH ISOLATED FORMcNOON WITH JEEM ~eHAH ~eKHAH ~eMEEM ~eALEF MAKSURA ISOLATED FORM",
    "eYEH ISOLATED FORMcHEH WITH JEEM ~eMEEM ~eALEF MAKSURA ISOLATED FORMeYEH ISOLATED FORM",
    "cYEH WITH JEEM ~eHAH ~eKHAH ~eMEEM ~eALEF MAKSURA ISOLATED FORMeYEH ISOLATED FORM",
    "cTHAL WITH SUPERSCRIPT ALEF ISOLATED FORMcREH ~",
    "cALEF MAKSURA WITH SUPERSCRIPT ALEF ISOLATED FORMcSHADDA WITH DAMMATAN ISOLATED FORM",
    "eKASRATAN ~eFATHA ~eDAMMA ~eKASRA ~eSUPERSCRIPT ALEF ISOLATED FORM",
    "cYEH WITH HAMZA ABOVE WITH REH FINAL FORMhZAIN ~hMEEM ~hNOON ~hALEF MAKSURA FINAL FORM",
    "hYEH FINAL FORMcBEH WITH REH FINAL FORMeZAIN ~eMEEM ~eNOON ~eALEF MAKSURA FINAL FORM",
    "eYEH FINAL FORMcTEH WITH REH ~eZAIN ~eMEEM ~eNOON ~eALEF MAKSURA FINAL FORMeYEH FINAL FORM",
    "cTHEH WITH REH ~eZAIN ~eMEEM ~eNOON ~eALEF MAKSURA FINAL FORMeYEH FINAL FORM",
    "cFEH WITH ALEF MAKSURA FINAL FORMeYEH FINAL FORMcQAF WITH ALEF MAKSURA FINAL FORM",
    "eYEH FINAL FORMcKAF WITH ALEF ~eLAM ~eMEEM ~eALEF MAKSURA FINAL FORMeYEH FINAL FORM",
    "cLAM WITH MEEM ~eALEF MAKSURA FINAL FORMeYEH FINAL FORMcMEEM WITH ALEF ~eMEEM ~",
    "cNOON WITH REH ~eZAIN ~eMEEM ~eNOON ~eALEF MAKSURA FINAL FORMeYEH FINAL FORM",
    "cALEF MAKSURA WITH SUPERSCRIPT ALEF FINAL FORMcYEH WITH REH FINAL FORMeZAIN ~eMEEM ~eNOON ~",
    "eALEF MAKSURA FINAL FORMeYEH FINAL FORMeHAMZA ABOVE WITH JEEM INITIAL FORMhHAH ~hKHAH ~",
    "hMEEM ~hHEH ~cBEH WITH JEEM INITIAL FORMeHAH ~eKHAH ~eMEEM ~eHEH ~cTEH WITH JEEM ~eHAH ~",
    "eKHAH ~eMEEM ~eHEH ~cTHEH WITH MEEM ~cJEEM WITH HAH ~eMEEM ~cHAH WITH JEEM ~eMEEM ~",
    "cKHAH WITH JEEM ~eMEEM ~cSEEN WITH JEEM ~eHAH ~eKHAH ~eMEEM ~cSAD WITH HAH ~eKHAH ~eMEEM ~",
    "cDAD WITH JEEM ~eHAH ~eKHAH ~eMEEM ~cTAH WITH HAH ~cZAH WITH MEEM ~cAIN WITH JEEM ~eMEEM ~",
    "cGHAIN WITH JEEM ~eMEEM ~cFEH WITH JEEM ~eHAH ~eKHAH ~eMEEM ~cQAF WITH HAH ~eMEEM ~",
    "cKAF WITH JEEM ~eHAH ~eKHAH ~eLAM ~eMEEM ~cLAM WITH JEEM ~eHAH ~eKHAH ~eMEEM ~eHEH ~",
    "cMEEM WITH JEEM ~eHAH ~eKHAH ~eMEEM ~cNOON WITH JEEM ~eHAH ~eKHAH ~eMEEM ~eHEH ~",
    "cHEH WITH JEEM ~eMEEM ~eSUPERSCRIPT ALEF INITIAL FORMcYEH WITH JEEM INITIAL FORMeHAH ~eKHAH ~",
    "eMEEM ~eHEH ~eHAMZA ABOVE WITH MEEM MEDIAL FORMhHEH ~cBEH WITH MEEM MEDIAL FORMeHEH ~",
    "cTEH WITH MEEM ~eHEH ~cTHEH WITH MEEM ~eHEH ~cSEEN WITH MEEM ~eHEH ~cSHEEN WITH MEEM ~eHEH ~",
    "cKAF WITH LAM ~eMEEM ~cLAM ~cNOON ~eHEH ~cYEH WITH MEEM ~eHEH ~cSHADDA WITH FATHA ~eDAMMA ~",
    "eKASRA ~cTAH WITH ALEF MAKSURA ISOLATED FORMeYEH ISOLATED FORM",
    "cAIN WITH ALEF MAKSURA ISOLATED FORMeYEH ISOLATED FORMcGHAIN WITH ALEF MAKSURA ISOLATED FORM",
    "eYEH ISOLATED FORMcSEEN WITH ALEF MAKSURA ISOLATED FORMeYEH ISOLATED FORM",
    "cSHEEN WITH ALEF MAKSURA ISOLATED FORMeYEH ISOLATED FORMcHAH WITH ALEF MAKSURA ISOLATED FORM",
    "eYEH ISOLATED FORMcJEEM WITH ALEF MAKSURA ISOLATED FORMeYEH ISOLATED FORM",
    "cKHAH WITH ALEF MAKSURA ISOLATED FORMeYEH ISOLATED FORMcSAD WITH ALEF MAKSURA ISOLATED FORM",
    "eYEH ISOLATED FORMcDAD WITH ALEF MAKSURA ISOLATED FORMeYEH ISOLATED FORMcSHEEN WITH JEEM ~",
    "eHAH ~eKHAH ~eMEEM ~eREH ~cSEEN ~cSAD ~cDAD ~cTAH WITH ALEF MAKSURA FINAL FORMeYEH FINAL FORM",
    "cAIN WITH ALEF MAKSURA FINAL FORMeYEH FINAL FORMcGHAIN WITH ALEF MAKSURA FINAL FORM",
    "eYEH FINAL FORMcSEEN WITH ALEF MAKSURA FINAL FORMeYEH FINAL FORM",
    "cSHEEN WITH ALEF MAKSURA FINAL FORMeYEH FINAL FORMcHAH WITH ALEF MAKSURA FINAL FORM",
    "eYEH FINAL FORMcJEEM WITH ALEF MAKSURA FINAL FORMeYEH FINAL FORM",
    "cKHAH WITH ALEF MAKSURA FINAL FORMeYEH FINAL FORMcSAD WITH ALEF MAKSURA FINAL FORM",
    "eYEH FINAL FORMcDAD WITH ALEF MAKSURA FINAL FORMeYEH FINAL FORMcSHEEN WITH JEEM ~eHAH ~",
    "eKHAH ~eMEEM ~eREH ~cSEEN ~cSAD ~cDAD ~cSHEEN WITH JEEM INITIAL ~eHAH ~eKHAH ~eMEEM ~",
    "cSEEN WITH HEH ~cSHEEN ~cTAH WITH MEEM ~cSEEN WITH JEEM MEDIAL ~eHAH ~eKHAH ~",
    "cSHEEN WITH JEEM ~eHAH ~eKHAH ~cTAH WITH MEEM ~cZAH ~cALEF WITH FATHATAN FINAL ~fISOLATED ~",
    "aORNATE LEFT PARENTHESISbRIGHT ~aARABIC LIGATURE RAHIMAHU ALLAAHcRADI ALLAAHU ANHeANHAAeANHUM",
    "eANHUMAAeANHUNNAcSALLALLAAHU ALAYHI WA-AALIHcALAYHI AS-SALAAMcALAYHIM ~cALAYHIMAA ~",
    "cALAYHI AS-SALAATU WAS-SALAAMcQUDDISA SIRRAHcSALLALLAHU ALAYHI WAAALIHEE WA-SALLAM",
    "cALAYHAA AS-SALAAMcTABAARAKA WA-TAAALAAcRAHIMAHUM ALLAAHcTEH WITH JEEM WITH MEEM INITIAL FORM",
    "eHAH WITH JEEM FINAL ~hINITIAL ~gMEEM ~eKHAH ~eMEEM WITH JEEM ~gHAH ~gKHAH ~",
    "cJEEM WITH MEEM WITH HAH FINAL ~hINITIAL ~cHAH WITH MEEM WITH YEH FINAL ~",
    "gALEF MAKSURA FINAL FORMcSEEN WITH HAH WITH JEEM INITIAL FORMeJEEM WITH HAH ~",
    "gALEF MAKSURA FINAL FORMeMEEM WITH HAH FINAL FORMhINITIAL ~gJEEM ~gMEEM FINAL ~hINITIAL ~",
    "cSAD WITH HAH WITH HAH FINAL ~hINITIAL ~eMEEM WITH MEEM FINAL ~cSHEEN WITH HAH ~hINITIAL ~",
    "eJEEM WITH YEH FINAL ~eMEEM WITH KHAH ~hINITIAL ~gMEEM FINAL ~hINITIAL ~",
    "cDAD WITH HAH WITH ALEF MAKSURA FINAL FORMeKHAH WITH MEEM FINAL FORMhINITIAL ~",
    "cTAH WITH MEEM WITH HAH FINAL ~hINITIAL ~gMEEM ~gYEH FINAL ~cAIN WITH JEEM WITH MEEM ~eMEEM ~",
    "hINITIAL ~gALEF MAKSURA FINAL FORMcGHAIN WITH MEEM WITH MEEM FINAL FORMgYEH ~",
    "gALEF MAKSURA FINAL FORMcFEH WITH KHAH WITH MEEM FINAL FORMhINITIAL ~",
    "cQAF WITH MEEM WITH HAH FINAL ~gMEEM ~cLAM WITH HAH ~gYEH ~gALEF MAKSURA FINAL FORM",
    "eJEEM WITH JEEM INITIAL FORMhFINAL ~eKHAH WITH MEEM ~hINITIAL ~eMEEM WITH HAH FINAL ~",
    "hINITIAL ~cMEEM WITH HAH WITH JEEM ~gMEEM ~gYEH FINAL ~eJEEM WITH HAH INITIAL ~gMEEM ~",
    "eKHAH WITH JEEM ~gMEEM ~@FD92eJEEM WITH KHAH ~cHEH WITH MEEM WITH JEEM ~gMEEM ~",
    "cNOON WITH HAH ~gALEF MAKSURA FINAL FORMeJEEM WITH MEEM FINAL FORMhINITIAL ~",
    "gALEF MAKSURA FINAL FORMeMEEM WITH YEH FINAL FORMgALEF MAKSURA FINAL FORM",
    "cYEH WITH MEEM WITH MEEM FINAL FORMhINITIAL ~cBEH WITH KHAH WITH YEH FINAL ~cTEH WITH JEEM ~",
    "gALEF MAKSURA FINAL FORMeKHAH WITH YEH FINAL FORMgALEF MAKSURA FINAL FORM",
    "eMEEM WITH YEH FINAL FORMgALEF MAKSURA FINAL FORMcJEEM WITH MEEM WITH YEH FINAL FORM",
    "eHAH WITH ALEF MAKSURA FINAL FORMeMEEM ~cSEEN WITH KHAH ~cSAD WITH HAH WITH YEH FINAL FORM",
    "cSHEEN ~cDAD ~cLAM WITH JEEM ~eMEEM ~cYEH WITH HAH ~eJEEM ~eMEEM ~cMEEM ~cQAF ~",
    "cNOON WITH HAH ~cQAF WITH MEEM WITH HAH INITIAL ~cLAM WITH HAH WITH MEEM ~",
    "cAIN WITH MEEM WITH YEH FINAL ~cKAF ~cNOON WITH JEEM WITH HAH INITIAL ~",
    "cMEEM WITH KHAH WITH YEH FINAL ~cLAM WITH JEEM WITH MEEM INITIAL ~",
    "cKAF WITH MEEM WITH MEEM FINAL ~cLAM WITH JEEM ~cNOON WITH JEEM WITH HAH ~",
    "cJEEM WITH HAH WITH YEH ~cHAH WITH JEEM ~cMEEM ~cFEH WITH MEEM ~cBEH WITH HAH ~",
    "cKAF WITH MEEM WITH MEEM INITIAL ~cAIN WITH JEEM ~cSAD WITH MEEM ~",
    "cSEEN WITH KHAH WITH YEH FINAL ~cNOON WITH JEEM ~@FDCFcSALAAMUHU ALAYNAA",
    "@FDF0cSALLA USED AS KORANIC STOP SIGN ISOLATED FORMcQALA ~cALLAH ISOLATED FORMcAKBAR ~",
    "cMOHAMMAD ~cSALAM ~cRASOUL ~cALAYHE ~cWASALLAM ~cSALLA ~cSALLALLAHOU ALAYHE WASALLAM",
    "cJALLAJALALOUHOUaRIAL SIGNaARABIC LIGATURE BISMILLAH AR-RAHMAN AR-RAHEEM",
    "cSUBHAANAHU WA TAAALAAcAZZA WA JALLaVARIATION SELECTOR-1c2c3c4c5c6c7c8c9c10c11c12c13c14c15c16",
    "aPRESENTATION FORM FOR VERTICAL COMMAeIDEOGRAPHIC COMMAfFULL STOPeCOLONeSEMICOLON",
    "eEXCLAMATION MARKeQUESTION ~eLEFT WHITE LENTICULAR BRACKETeRIGHT WHITE LENTICULAR BRAKCET",
    "eHORIZONTAL ELLIPSIS@FE20aCOMBINING LIGATURE LEFT HALFcRIGHT ~bDOUBLE TILDE LEFT HALFdRIGHT ~",
    "bMACRON LEFT HALFcRIGHT ~bCONJOINING MACRONbLIGATURE LEFT HALF BELOWcRIGHT ~bTILDE LEFT ~",
    "cRIGHT ~bMACRON LEFT ~cRIGHT ~bCONJOINING MACRON BELOWbCYRILLIC TITLO LEFT HALFdRIGHT ~",
    "aPRESENTATION FORM FOR VERTICAL TWO DOT LEADEReEM DASHeEN ~eLOW LINEeWAVY LOW LINE",
    "eLEFT PARENTHESISeRIGHT ~eLEFT CURLY BRACKETeRIGHT ~eLEFT TORTOISE SHELL BRACKETeRIGHT ~",
    "eLEFT BLACK LENTICULAR ~eRIGHT ~eLEFT DOUBLE ANGLE ~eRIGHT ~eLEFT ANGLE BRACKETeRIGHT ~",
    "eLEFT CORNER ~eRIGHT ~eLEFT WHITE CORNER BRACKETeRIGHT ~aSESAME DOTaWHITE SESAME DOT",
    "aPRESENTATION FORM FOR VERTICAL LEFT SQUARE BRACKETeRIGHT ~aDASHED OVERLINEaCENTRELINE ~",
    "aWAVY ~aDOUBLE WAVY OVERLINEaDASHED LOW LINEaCENTRELINE ~aWAVY ~aSMALL COMMA",
    "bIDEOGRAPHIC COMMAbFULL STOP@FE54bSEMICOLONbCOLONbQUESTION MARKbEXCLAMATION ~bEM DASH",
    "bLEFT PARENTHESISbRIGHT ~bLEFT CURLY BRACKETbRIGHT ~bLEFT TORTOISE SHELL BRACKETbRIGHT ~",
    "bNUMBER SIGNbAMPERSANDbASTERISKbPLUS SIGNbHYPHEN-MINUSbLESS-THAN SIGNbGREATER-~bEQUALS SIGN",
    "@FE68bREVERSE SOLIDUSbDOLLAR SIGNbPERCENT ~bCOMMERCIAL AT@FE70aARABIC FATHATAN ISOLATED FORM",
    "bTATWEEL WITH FATHATAN ABOVEbDAMMATAN ISOLATED FORMbTAIL FRAGMENTbKASRATAN ISOLATED FORM",
    "@FE76bFATHA ~cMEDIAL ~bDAMMA ISOLATED ~cMEDIAL ~bKASRA ISOLATED ~cMEDIAL ~bSHADDA ISOLATED ~",
    "cMEDIAL ~bSUKUN ISOLATED ~cMEDIAL ~bLETTER HAMZA ISOLATED FORM",
    "cALEF WITH MADDA ABOVE ISOLATED FORMgFINAL ~eHAMZA ABOVE ISOLATED ~gFINAL ~",
    "cWAW WITH HAMZA ABOVE ISOLATED ~gFINAL ~cALEF WITH HAMZA BELOW ISOLATED ~gFINAL ~",
    "cYEH WITH HAMZA ABOVE ISOLATED ~gFINAL ~gINITIAL ~gMEDIAL ~cALEF ISOLATED FORMdFINAL ~",
    "cBEH ISOLATED ~dFINAL ~dINITIAL ~dMEDIAL ~cTEH MARBUTA ISOLATED FORMeFINAL ~dISOLATED FORM",
    "dFINAL ~dINITIAL ~dMEDIAL ~cTHEH ISOLATED ~dFINAL ~dINITIAL ~dMEDIAL ~cJEEM ISOLATED ~",
    "dFINAL ~dINITIAL ~dMEDIAL ~cHAH ISOLATED ~dFINAL ~dINITIAL ~dMEDIAL ~cKHAH ISOLATED ~dFINAL ~",
    "dINITIAL ~dMEDIAL ~cDAL ISOLATED ~dFINAL ~cTHAL ISOLATED ~dFINAL ~cREH ISOLATED ~dFINAL ~",
    "cZAIN ISOLATED ~dFINAL ~cSEEN ISOLATED ~dFINAL ~dINITIAL ~dMEDIAL ~cSHEEN ISOLATED ~dFINAL ~",
    "dINITIAL ~dMEDIAL ~cSAD ISOLATED ~dFINAL ~dINITIAL ~dMEDIAL ~cDAD ISOLATED ~dFINAL ~",
    "dINITIAL ~dMEDIAL ~cTAH ISOLATED ~dFINAL ~dINITIAL ~dMEDIAL ~cZAH ISOLATED ~dFINAL ~",
    "dINITIAL ~dMEDIAL ~cAIN ISOLATED ~dFINAL ~dINITIAL ~dMEDIAL ~cGHAIN ISOLATED ~dFINAL ~",
    "dINITIAL ~dMEDIAL ~cFEH ISOLATED ~dFINAL ~dINITIAL ~dMEDIAL ~cQAF ISOLATED ~dFINAL ~",
    "dINITIAL ~dMEDIAL ~cKAF ISOLATED ~dFINAL ~dINITIAL ~dMEDIAL ~cLAM ISOLATED ~dFINAL ~",
    "dINITIAL ~dMEDIAL ~cMEEM ISOLATED ~dFINAL ~dINITIAL ~dMEDIAL ~cNOON ISOLATED ~dFINAL ~",
    "dINITIAL ~dMEDIAL ~cHEH ISOLATED ~dFINAL ~dINITIAL ~dMEDIAL ~cWAW ISOLATED ~dFINAL ~",
    "cALEF MAKSURA ISOLATED FORMeFINAL ~cYEH ISOLATED FORMdFINAL ~dINITIAL ~dMEDIAL ~",
    "bLIGATURE LAM WITH ALEF WITH MADDA ABOVE ISOLATED FORMiFINAL ~gHAMZA ABOVE ISOLATED ~iFINAL ~",
    "hBELOW ISOLATED ~iFINAL ~fISOLATED FORMfFINAL ~@FEFFaZERO WIDTH NO-BREAK SPACE",
    "@FF01aFULLWIDTH EXCLAMATION MARKbQUOTATION ~bNUMBER SIGNbDOLLAR ~bPERCENT ~bAMPERSAND",
    "bAPOSTROPHEbLEFT PARENTHESISbRIGHT ~bASTERISKbPLUS SIGNbCOMMAbHYPHEN-MINUSbFULL STOPbSOLIDUS",
    "bDIGIT ZEROcONEcTWOcTHREEcFOURcFIVEcSIXcSEVENcEIGHTcNINEbCOLONbSEMICOLONbLESS-THAN SIGN",
    "bEQUALS SIGNbGREATER-THAN SIGNbQUESTION MARKbCOMMERCIAL ATbLATIN CAPITAL LETTER AeBeCeDeEeFeG",
    "eHeIeJeKeLeMeNeOePeQeReSeTeUeVeWeXeYeZbLEFT SQUARE BRACKETbREVERSE SOLIDUS",
    "bRIGHT SQUARE BRACKETbCIRCUMFLEX ACCENTbLOW LINEbGRAVE ACCENTbLATIN SMALL LETTER AeBeCeDeEeF",
    "eGeHeIeJeKeLeMeNeOePeQeReSeTeUeVeWeXeYeZbLEFT CURLY BRACKETbVERTICAL LINEbRIGHT CURLY BRACKET",
    "bTILDEbLEFT WHITE PARENTHESISbRIGHT ~aHALFWIDTH IDEOGRAPHIC FULL STOPbLEFT CORNER BRACKET",
    "bRIGHT ~bIDEOGRAPHIC COMMAbKATAKANA MIDDLE DOTcLETTER WOdSMALL AeIeUeEeOeYAeYUeYOeTU",
    "bKATAKANA-HIRAGANA PROLONGED SOUND MARKbKATAKANA LETTER AdIdUdEdOdKAdKIdKUdKEdKOdSAdSIdSUdSE",
    "dSOdTAdTIdTUdTEdTOdNAdNIdNUdNEdNOdHAdHIdHUdHEdHOdMAdMIdMUdMEdMOdYAdYUdYOdRAdRIdRUdREdROdWAdN",
    "cVOICED SOUND MARKcSEMI-VOICED SOUND MARKbHANGUL FILLERcLETTER KIYEOKdSSANGKIYEOKdKIYEOK-SIOS",
    "dNIEUNdNIEUN-CIEUCeHIEUHdTIKEUTdSSANGTIKEUTdRIEULdRIEUL-KIYEOKeMIEUMePIEUPeSIOSeTHIEUTH",
    "ePHIEUPHeHIEUHdMIEUMdPIEUPdSSANGPIEUPdPIEUP-SIOSdSIOSdSSANGSIOSdIEUNGdCIEUCdSSANGCIEUC",
    "dCHIEUCHdKHIEUKHdTHIEUTHdPHIEUPHdHIEUH@FFC2dAdAEdYAdYAEdEOdE@FFCAdYEOdYEdOdWAdWAEdOE@FFD2dYO",
    "dUdWEOdWEdWIdYU@FFDAdEUdYIdI@FFE0aFULLWIDTH CENT SIGNbPOUND ~bNOT ~bMACRONbBROKEN BAR",
    "bYEN SIGNbWON ~@FFE8aHALFWIDTH FORMS LIGHT VERTICALbLEFTWARDS ARROWbUPWARDS ~bRIGHTWARDS ~",
    "bDOWNWARDS ~bBLACK SQUAREbWHITE CIRCLE@FFF9aINTERLINEAR ANNOTATION ANCHORcSEPARATOR",
    "cTERMINATORaOBJECT REPLACEMENT CHARACTERaREPLACEMENT CHARACTER"]

end JsonExpr.Text.CharacterName
