/-!
The names of the characters from 16000 to 1CFC3.
-/

namespace JsonExpr.Text.CharacterName

def from16000 : List String :=
  ["@16800aBAMUM LETTER PHASE-A NGKUE MFONeGBIEE FONePON MFON PIPAEMGBIEEgPIPAEMBAeNAA MFON",
    "eSHUENSHUETeTITA MFONeNZA ~eSHINDA PA NJIePON PA NJI PIPAEMGBIEEhPIPAEMBAeMAEMBGBIEE",
    "eTU MAEMBAeNGANGUeMAEMVEUXeMANSUAEeMVEUAENGAMeSEUNYAMeNTOQPENeKEUKEUTNDAeNKINDIeSUU",
    "eNGKUENZEUMeLAPAQeLET KUTeNTAP MFAAeMAEKEUPePASHAEeGHEUAERAEePAMSHAEeMON NGGEUAETeNZUN MEUT",
    "eU YUQ NAEeGHEUAEGHEUAEeNTAP NTAAeSISAeMGBASAeMEUNJOMNDEUQeMOOMPUQeKAFAePA LEERAEWAeNDA ~ePET",
    "eMAEMKPENeNIKAePUPeTUAEPeLUAEPeSONJAMeTEUTEUWENeMAENYIeKETeNDAANGGEUAETeKUOQeMOOMEUTeSHUM",
    "eLOMMAEeFIRIeROMeKPOQeSOQeMAP PIEETeSHIRAEeNTAPeSHOQ NSHUT YUMeNYIT MONGKEUAEQePAARAEeNKAARAE",
    "eUNKNOWNeNGGENeMAESIeNJAMeMBANYIeNYETeTEUAENeSOTePAAMeNSHIEEeMAEMeNYIeKAQeNSHAeVEEeLUeNENeNAQ",
    "eMBAQdB NSHUETeTU MAEMGBIEEeSIEEeSET TUeLOM NTEUMeMBA MAELEEeKIEEMeYEURAEeMBAARAEeKAMePEESHI",
    "eYAFU LEERAEWAeLAM NSHUT NYAMeNTIEE SHEUOQeNDU NJAAeGHEUGHEUAEMePITeTU NSIEEeSHET NJAQ",
    "eSHEUAEQTUeMFON TEUAEQeMBIT MBAAKETeNYI NTEUMeKEUPUQeGHEUGHENeKEUYEUXeLAANAEePARUMeVEUM",
    "eNGKINDI MVOPeNGGEU MBUeWUAETeSAKEUAEeTAAMeMEUQeNGGUOQeNGGUOQ LARGEeMFIYAQeSUEeMBEURI",
    "eMONTIEENeNYAEMAEePUNGAAMeMEUT NGGEETeFEUXeMBUOQeFEEeKEUAEMeMA NJEUAENAfNJUQAeLETeNGGAAMeNSEN",
    "eMAeKIQeNGOMdC NGKUE MAEMBAeNZAeYUMeWANGKUOQeNGGENeNDEUAEREEeNGKAQeGHARAEeMBEEKEETeGBAYI",
    "eNYIR MKPARAQ MEUNeNTU MBITeMBEUMePIRIEENeNDOMBUeMBAA CABBAGE-TREEeKEUSHEUAEPeGHAPeKEUKAQ",
    "eYU MUOMAEeNZEUMeMBUEeNSEUAENeMBITeYEUQeKPARAQeKAAeSEUXeNDIDAeTAASHAEeNJUEQeTITA YUEeSUAET",
    "eNGGUAEN NYAMeVEUXeNANSANAQeMA KEUAERIeNTAAeNGGUONeLAPeMBIRIEENeMGBASAQeNTEUNGBAeTEUTEUX",
    "eNGGUMeFUEeNDEUTeNSAeNSHAQeBUNGeVEUAEPENeMBERAEeRUeNJAEMeLAMeTITUAEPeNSUOT NGOMeNJEEEEeKET",
    "eNGGUeMAESIeMBUAEMeLUeKUTeNJAMeNGOMeWUPeNGGUEETeNSOMeNTENeKUOP NKAARAEeNSUNeNDAMeMA NSIEEeYAA",
    "eNDAPeSHUEQeSETFONeMBIeMAEMBAeMBANYIeKEUSEUXeMBEUXeKEUMeMBAA PICKETeYUWOQeNJEUXeMIEEeMUAE",
    "eSHIQeKEN LAWfFATIGUEeNGAQeNAQeLIQePINePENeTETdD MBUOeWAPeNJIeMFONeNJIEEeLIEEeNJEUTeNSHEE",
    "eNGGAAMAEeNYAMeWUAENeNGKUNeSHEEeNGKAPeKEUAETMEUNeTEUTeSHEUAEeNJAPeSUEeKETeYAEMMAEeKUOMeSAP",
    "eMFEUTeNDEUXeMALEERIeMEUTeSEUAEQeYENeNJEUAEMeKEUOT MBUAEeNGKEURIeTUeGHAAeNGKYEEeFEUFEUAET",
    "eNDEEeMGBOFUMeLEUAEPeNDONeMONIeMGBEUNePUUTeMGBIEEeMFOeLUMeNSIEEPeMBAAeKWAETeNYETeTEUAENeSOT",
    "eYUWOQeKEUMeRAEMeTEEEEeNGKEUAEQeMFEUAEeNSIEETeKEUPePIPePEUTAEeNYUEeLETeNGGAAMeMFIEEeNGGWAEN",
    "eYUOMePAPeYUOPeNDAMeNTEUMeSUAEeKUNeNGGEUXeNGKIEEeTUOTeMEUNeKUQeNSUMeTEUNeMAENJETeNGGAPeLEUM",
    "eNGGUOMeNSHUTeNJUEQeGHEUAEeKUeREN OLDeTAEeTOQeNYIeRIIeLEEEEeMEEEEeMeSUUeMUeSHIIeSHEUXeKYEEeNU",
    "eSHUeNTEEePEEeNIeSHOQePUQeMVOPeLOQeREN MUCHeTIeNTUUeMBAA SEVENeSAQeFAAdE NDAPeTOONeMBEUMeLAP",
    "eVOMeLOONePAAeSOMeRAQeNSHUOPeNDUNePUAEeTAMeNGKAeKPEUXeWUOeSEEeNGGEUAETePAAMeTOOeKUOPeLOM",
    "eNSHIEEeNGOPeMAEMeNGKEUXeNGOQeNSHUEeRIMGBAeNJEUXePEEMeSAAeNGGURAEeMGBAeGHEUXeNGKEUAEMeNJAEMLI",
    "eMAPeLOOTeNGGEEEEeNDIQeTAEN NTEUMeSETePUMeNDAA SOFTNESSeNGGUAESHAE NYAMeYIEEeGHEUNeTUAEeYEUAE",
    "ePOeTUMAEeKEUAEeSUAENeTEUAEQeVEUAEeWEUXeLAAMePUeTAAQeGHAAMAEeNGEUREUTeSHEUAEQeMGBENeMBEEeNZAQ",
    "eNKOMeGBETeTUMeKUETeYAPeNYI CLEAVEReYITeMFEUQeNDIAQePIEEQeYUEQeLEUAEMeFUEeGBEUXeNGKUPeKETeMAE",
    "eNGKAAMIeGHETeFAeNTUMePEUTeYEUMeNGGEUAEeNYI BETWEENeNZUQePOONeMIEEeFUETeNAEeMUAEeGHEUAEeFU I",
    "eMVIePUAQeNGKUMeKUTePIETeNTAPeYEUAETeNGGUPePA PEOPLEeFU CALLeFOMeNJEEeAeTOQeOeIeLAQePA PLURAL",
    "eTAAeTAQeNDAA MY HOUSEeSHIQeYEUXeNGUAEeYUAENeYOQ SWIMMINGfCOVEReYUQeYUNeKEUXePEUXeNJEE EPOCH",
    "ePUEeWUEeFEEeVEEeLUeMIeREUXeRAEeNGUAETeNGAeSHOeSHOQeFU REMEDYeNAePIeLOQeKOeMENeMAeMAQeTEUeKI",
    "eMONeTENeFAQeGHOMdF KAeUeKUeEEeREEeTAEeNYIeLAeRIIeRIEEeMEEEEeTAAeNDAAeNJAEMeMeSUUeSHIIeSI",
    "eSEUXeKYEEeKETeNUAEeNUeNJUAEeYOQeSHUeYAeNSHAePEUXeNTEEeWUEePEEeRUeNIeREUXeKENeNGKWAENeNGGA",
    "eSHOePUAEeFOMeWAeLIeLOQeKOeMBENeRENeMAeMOeMBAAeTETeKPAeSAMBAeVUEQ@16A40aMRO LETTER TAcNGIcYO",
    "cMIMcBAcDAcAcPHIcKHAIcHAOcDAIcCHUcKEAAEcOLcMAEMcNINcPAcOOcOcROcSHIcTHEAcEAcWAcEcKOcLANcLAcHAI",
    "cRIcTEK@16A60bDIGIT ZEROcONEcTWOcTHREEcFOURcFIVEcSIXcSEVENcEIGHTcNINE@16A6EbDANDA",
    "bDOUBLE DANDAaTANGSA LETTER OZcOCcOQcOXcAZcACcAQcAXcVZcVCcVQcVXcEZcECcEQcEXcIZcICcIQcIXcUZcUC",
    "cUQcUXcAWZcAWCcAWQcAWXcUIZcUICcUIQcUIXcFINAL NGcLONG UEXcSHORT UEZdAWXcUECcUEZcUEQcUEXcUIUZ",
    "cUIUCcUIUQcUIUXcMZcMCcMQcMXcKAcKHAcGAcNGAcSAcYAcWAcPAcNYAcPHAcBAcMAcNAcHAcLAcHTAcTAcDAcRAcNHA",
    "cSHAcCAcTSAcGHAcHTTAcTHAcXAcFAcDHAcCHAcZA@16AC0bDIGIT ZEROcONEcTWOcTHREEcFOURcFIVEcSIXcSEVEN",
    "cEIGHTcNINE@16AD0aBASSA VAH LETTER ENNIdKAdSEdFAdMBEdYIEdGAHdDHIIdKPAHdJOdHWAHdWAdZOdGBUdDO",
    "dCEdUWUdTOdBAdVUdYEINdPAdWADDAdAdOdOOdUdEEdEdI@16AF0cCOMBINING HIGH TONEdLOW ~dMID ~",
    "dLOW-MID TONEdHIGH-LOW ~cFULL STOP@16B00aPAHAWH HMONG VOWEL KEEBdKEEVdKIBdKIVdKAUBdKAUVdKUB",
    "dKUVdKEBdKEVdKAIBdKAIVdKOOBdKOOVdKAWBdKAWVdKUABdKUAVdKOBdKOVdKIABdKIAVdKABdKAVdKWBdKWVdKAAB",
    "dKAAVcCONSONANT VAUdNTSAUdLAUdHAUdNLAUdRAUdNKAUdQHAUdYAUdHLAUdMAUdCHAUdNCHAUdHNAUdPLHAUdNTHAU",
    "dNAUdAUdXAUdCAUcMARK CIM TUBeSOeKESeKHAVeSUAMeHOMeTAUMcSIGN VOS THOMeTSHAB CEEBdCIM CHEEM",
    "dVOS THIABeFEEMdXYEEM NTXIVeRHOeTOVeFAIBdVOS SEEVdMEEJ SUABdVOS NRUAdIB YAMdXAUSdCIM TSOV ROG",
    "@16B50cDIGIT ZEROdONEdTWOdTHREEdFOURdFIVEdSIXdSEVENdEIGHTdNINE@16B5BcNUMBER TENSdHUNDREDS",
    "dTEN THOUSANDSdMILLIONSdHUNDRED MILLIONSdTEN BILLIONSdTRILLIONS@16B63cSIGN VOS LUBdXYOOdHLI",
    "dTHIRD-STAGE HLIdZWJ THAJdHNUBdNQIGdXIABdNTUJdAVdTXHEEJ CEEVdMEEJ TSEEBdTAUdLOSdMUS",
    "dCIM HAIS LUS NTOG NTOGeCUAM TSHOOJeTXWVeTXWV CHWVePUB DAWBeNRES TOS@16B7DcCLAN SIGN TSHEEJ",
    "eYEEGeLISeLAUJeXYOOJeKOOeHAWJeMUASeTHOJeTSABePHABeKHABeHAMeVAJeFAJeYAJeTSWBeKWMeVWJ",
    "@16E40aMEDEFAIDRIN CAPITAL LETTER MdSdVdWdATIUdZdKPdPdTdGdFdIdKdAdJdEdBdCdUdYUdLdQdHPdNYdXdD",
    "dOEdNdRdOdAIdYbSMALL LETTER MdSdVdWdATIUdZdKPdPdTdGdFdIdKdAdJdEdBdCdUdYUdLdQdHPdNYdXdDdOEdNdR",
    "dOdAIdYbDIGIT ZEROcONEcTWOcTHREEcFOURcFIVEcSIXcSEVENcEIGHTcNINEbNUMBER TENcELEVENcTWELVE",
    "cTHIRTEENcFOURTEENcFIFTEENcSIXTEENcSEVENTEENcEIGHTEENcNINETEENbDIGIT ONE ALTERNATE FORMcTWO ~",
    "cTHREE ~bCOMMAbFULL STOPbSYMBOL AIVAbEXCLAMATION OH@16F00aMIAO LETTER PAcBAcYI PAcPLAcMAcMHA",
    "cARCHAIC MAcFAcVAcVFAcTAcDAcYI TTAdTAcTTAcDDAcNAcNHAcYI NNAcARCHAIC NAcNNAcNNHAcLAcLYAcLHA",
    "cLHYAcTLHAcDLHAcTLHYAcDLHYAcKAcGAcYI KAcQAcQGAcNGAcNGHAcARCHAIC NGAcHAcXAcGHAcGHHAcTSSAcDZZA",
    "cNYAcNYHAcTSHAcDZHAcYI TSHAdDZHAcREFORMED TSHAcSHAcSSAcZHAcZSHAcTSAcDZAcYI TSAcSAcZAcZSAcZZA",
    "cZZSAcARCHAIC ZZAcZZYAcZZSYAcWAcAHcHHAcBRIcSYIcDZYIcTEcTSEcRTE",
    "@16F4FbSIGN CONSONANT MODIFIER BARbLETTER NASALIZATIONbSIGN ASPIRATIONcREFORMED VOICING",
    "dASPIRATIONbVOWEL SIGN AdAAdAHHdANdANGdOdOOdWOdWdEdENdENGdOEYdIdIAdIANdIANGdIOdIEdIIdIUdINGdU",
    "dUAdUANdUANGdUUdUEIdUNGdYdYIdAEdAEEdERRdROUNDED ERRdERdROUNDED ERdAIdEIdAUdOUdNdNGdUOGdYUIdOG",
    "dOERdVWdIGdEAdIONGdUI@16F8FbTONE RIGHTcTOP RIGHTcABOVEcBELOWbLETTER TONE-2d3d4d5d6d7d8",
    "cREFORMED TONE-1e2e4e5e6e8@16FE0aTANGUT ITERATION MARKaNUSHU ~aOLD CHINESE HOOK MARK",
    "cITERATION ~aKHITAN SMALL SCRIPT FILLER@16FF0aVIETNAMESE ALTERNATE READING MARK CAeNHAY",
    "@18800aTANGUT COMPONENT-001c002c003c004c005c006c007c008c009c010c011c012c013c014c015c016c017",
    "c018c019c020c021c022c023c024c025c026c027c028c029c030c031c032c033c034c035c036c037c038c039c040",
    "c041c042c043c044c045c046c047c048c049c050c051c052c053c054c055c056c057c058c059c060c061c062c063",
    "c064c065c066c067c068c069c070c071c072c073c074c075c076c077c078c079c080c081c082c083c084c085c086",
    "c087c088c089c090c091c092c093c094c095c096c097c098c099c100c101c102c103c104c105c106c107c108c109",
    "c110c111c112c113c114c115c116c117c118c119c120c121c122c123c124c125c126c127c128c129c130c131c132",
    "c133c134c135c136c137c138c139c140c141c142c143c144c145c146c147c148c149c150c151c152c153c154c155",
    "c156c157c158c159c160c161c162c163c164c165c166c167c168c169c170c171c172c173c174c175c176c177c178",
    "c179c180c181c182c183c184c185c186c187c188c189c190c191c192c193c194c195c196c197c198c199c200c201",
    "c202c203c204c205c206c207c208c209c210c211c212c213c214c215c216c217c218c219c220c221c222c223c224",
    "c225c226c227c228c229c230c231c232c233c234c235c236c237c238c239c240c241c242c243c244c245c246c247",
    "c248c249c250c251c252c253c254c255c256c257c258c259c260c261c262c263c264c265c266c267c268c269c270",
    "c271c272c273c274c275c276c277c278c279c280c281c282c283c284c285c286c287c288c289c290c291c292c293",
    "c294c295c296c297c298c299c300c301c302c303c304c305c306c307c308c309c310c311c312c313c314c315c316",
    "c317c318c319c320c321c322c323c324c325c326c327c328c329c330c331c332c333c334c335c336c337c338c339",
    "c340c341c342c343c344c345c346c347c348c349c350c351c352c353c354c355c356c357c358c359c360c361c362",
    "c363c364c365c366c367c368c369c370c371c372c373c374c375c376c377c378c379c380c381c382c383c384c385",
    "c386c387c388c389c390c391c392c393c394c395c396c397c398c399c400c401c402c403c404c405c406c407c408",
    "c409c410c411c412c413c414c415c416c417c418c419c420c421c422c423c424c425c426c427c428c429c430c431",
    "c432c433c434c435c436c437c438c439c440c441c442c443c444c445c446c447c448c449c450c451c452c453c454",
    "c455c456c457c458c459c460c461c462c463c464c465c466c467c468c469c470c471c472c473c474c475c476c477",
    "c478c479c480c481c482c483c484c485c486c487c488c489c490c491c492c493c494c495c496c497c498c499c500",
    "c501c502c503c504c505c506c507c508c509c510c511c512c513c514c515c516c517c518c519c520c521c522c523",
    "c524c525c526c527c528c529c530c531c532c533c534c535c536c537c538c539c540c541c542c543c544c545c546",
    "c547c548c549c550c551c552c553c554c555c556c557c558c559c560c561c562c563c564c565c566c567c568c569",
    "c570c571c572c573c574c575c576c577c578c579c580c581c582c583c584c585c586c587c588c589c590c591c592",
    "c593c594c595c596c597c598c599c600c601c602c603c604c605c606c607c608c609c610c611c612c613c614c615",
    "c616c617c618c619c620c621c622c623c624c625c626c627c628c629c630c631c632c633c634c635c636c637c638",
    "c639c640c641c642c643c644c645c646c647c648c649c650c651c652c653c654c655c656c657c658c659c660c661",
    "c662c663c664c665c666c667c668c669c670c671c672c673c674c675c676c677c678c679c680c681c682c683c684",
    "c685c686c687c688c689c690c691c692c693c694c695c696c697c698c699c700c701c702c703c704c705c706c707",
    "c708c709c710c711c712c713c714c715c716c717c718c719c720c721c722c723c724c725c726c727c728c729c730",
    "c731c732c733c734c735c736c737c738c739c740c741c742c743c744c745c746c747c748c749c750c751c752c753",
    "c754c755c756c757c758c759c760c761c762c763c764c765c766c767c768",
    "@1AFF0aKATAKANA LETTER MINNAN TONE-2e3e4e5@1AFF5e7e8dNASALIZED TONE-1f2f3f4f5@1AFFDf7f8",
    "@1B000cARCHAIC EaHIRAGANA LETTER ARCHAIC YEaHENTAIGANA LETTER A-1d2d3dWOcI-1d2d3d4cU-1d2d3d4",
    "d5cE-2d3d4d5d6cO-1d2d3cKA-1d2d3d4d5d6d7d8d9d10d11dKEcKI-1d2d3d4d5d6d7d8cKU-1d2d3d4d5d6d7cKE-1",
    "d2d3d4d5d6cKO-1d2d3dKIcSA-1d2d3d4d5d6d7d8cSI-1d2d3d4d5d6cSU-1d2d3d4d5d6d7d8cSE-1d2d3d4d5cSO-1",
    "d2d3d4d5d6d7cTA-1d2d3d4cTI-1d2d3d4d5d6d7cTU-1d2d3d4dTOcTE-1d2d3d4d5d6d7d8d9cTO-1d2d3d4d5d6dRA",
    "cNA-1d2d3d4d5d6d7d8d9cNI-1d2d3d4d5d6d7dTEcNU-1d2d3cNE-1d2d3d4d5d6dKOcNO-1d2d3d4d5cHA-1d2d3d4",
    "d5d6d7d8d9d10d11cHI-1d2d3d4d5d6d7cHU-1d2d3cHE-1d2d3d4d5d6d7cHO-1d2d3d4d5d6d7d8cMA-1d2d3d4d5d6",
    "d7cMI-1d2d3d4d5d6d7cMU-1d2d3d4cME-1d2dMAcMO-1d2d3d4d5d6cYA-1d2d3d4d5dYOcYU-1d2d3d4cYO-1d2d3d4",
    "d5d6cRA-1d2d3d4cRI-1d2d3d4d5d6d7cRU-1d2d3d4d5d6cRE-1d2d3d4cRO-1d2d3d4d5d6cWA-1d2d3d4d5cWI-1d2",
    "d3d4d5cWE-1d2d3d4cWO-1d2d3d4d5d6d7cN-MU-MO-1f2aHIRAGANA LETTER ARCHAIC WU",
    "aKATAKANA LETTER ARCHAIC YIdYEdWU@1B150aHIRAGANA LETTER SMALL WIdWEdWO",
    "@1B164aKATAKANA LETTER SMALL WIdWEdWOdN@1BC00aDUPLOYAN LETTER HcXcPcTcFcKcLcBcDcVcGcRcP NcD S",
    "cF NcK McR ScTHcSLOAN DHcDHcKKcSLOAN JcHLcLHcRHcMcNcJcScM NcN McJ McS JcM WITH DOTcN ~cJ ~",
    "eDOTS INSIDE AND ABOVEcS WITH DOTeDOT BELOWcM ScN ScJ ScS ScM N ScN M ScJ ~cS J S",
    "cJ S WITH DOTdNdN ScS TdT RdPdP RcT SdR ScWcWHcW RcS NdMcK R ScG ~cS KdK RcAcSLOAN OWcOAcO",
    "cAOUcIcEcIEcSHORT IcUIcEEcSLOAN EHcROMANIAN IcSLOAN EEcLONG IcYEcUcEUcXWcU NcLONG U",
    "cROMANIAN UcUHcSLOAN UcOOHcOWcOUcWAcWOcWIcWEIcWOWcNASAL UdOdIdAcPERNIN ANdAMcSLOAN ENdANdON",
    "cVOCALIC M@1BC70bAFFIX LEFT HORIZONTAL SECANTcMID ~cRIGHT ~cLOW VERTICAL ~cMID ~cHIGH ~",
    "cATTACHED SECANTdLEFT-TO-RIGHT SECANTdTANGENTdTAILdE HOOKdI ~dTANGENT ~@1BC80cHIGH ACUTE",
    "dTIGHT ACUTEdGRAVEdLONG GRAVEdDOTdCIRCLEdLINEdWAVEdVERTICAL@1BC90cLOW ACUTEdTIGHT ACUTEdGRAVE",
    "dLONG GRAVEdDOTdCIRCLEdLINEdWAVEdVERTICALdARROW@1BC9CbSIGN O WITH CROSSbTHICK LETTER SELECTOR",
    "bDOUBLE MARKbPUNCTUATION CHINOOK FULL STOPaSHORTHAND FORMAT LETTER OVERLAPcCONTINUING ~",
    "cDOWN STEPcUP ~@1CF00aZNAMENNY COMBINING MARK GORAZDO NIZKO S KRYZHEM ON LEFT",
    "dNIZKO S KRYZHEM ON LEFTdTSATA ON LEFTdGORAZDO NIZKO ON LEFTdNIZKO ON LEFTdSREDNE ~",
    "dMALO POVYSHE ON LEFTdPOVYSHE ON LEFTdVYSOKO ~dMALO POVYSHE S KHOKHLOM ON LEFT",
    "dPOVYSHE S KHOKHLOM ON LEFTdVYSOKO ~dGORAZDO NIZKO S KRYZHEM ON RIGHT",
    "dNIZKO S KRYZHEM ON RIGHTdTSATA ON RIGHTdGORAZDO NIZKO ON RIGHTdNIZKO ON RIGHTdSREDNE ~",
    "dMALO POVYSHE ON RIGHTdPOVYSHE ON RIGHTdVYSOKO ~dMALO POVYSHE S KHOKHLOM ON RIGHT",
    "dPOVYSHE S KHOKHLOM ON RIGHTdVYSOKO ~dTSATA S KRYZHEMdMALO POVYSHE S KRYZHEM",
    "dSTRANNO MALO POVYSHEdPOVYSHE S KRYZHEMeSTRANNOdVYSOKO S KRYZHEMdMALO POVYSHE STRANNO",
    "dGORAZDO VYSOKOdZELOdONdRAVNOdTIKHAYAdBORZAYAdUDARKAdPODVERTKAdLOMKAdKUPNAYAdKACHKAdZEVOK",
    "dSKOBAdRAZSEKAdKRYZH ON LEFT@1CF30cTONAL RANGE MARK MRACHNOfSVETLOfTRESVETLOcMARK ZADERZHKA",
    "dDEMESTVENNY ZADERZHKAdOTSECHKAdPODCHASHIEdPODCHASHIE WITH VERTICAL STROKEdCHASHKA",
    "dCHASHKA POLNAYAdOBLACHKOdSOROCHYA NOZHKAdTOCHKAdDVOETOCHIEcATTACHING VERTICAL OMET",
    "cMARK CURVED ~dKRYZHcLOWER TONAL RANGE INDICATORbPRIZNAK MODIFIER LEVEL-2e3dDIRECTION FLIP",
    "dKRYZHdROG@1CF50bNEUME KRYUKcKRYUK TIKHYcPARAKLITcDVA V CHELNUcKLYUCHcZANOZHEKcSTOPITSA",
    "cSTOPITSA S OCHKOMcPEREVODKAcPEREVODKA NEPOSTOYANNAYAcSTOPITSA WITH SOROCHYA NOZHKA",
    "cCHELYUSTKAcPALKAcZAPYATAYAcGOLUBCHIK BORZYdTIKHYdMRACHNYdSVETLYdTRESVETLYcVRAKHIYA PROSTAYA",
    "dMRACHNAYAdSVETLAYAdTRESVETLAYAdKLYUCHEVAYA PROSTAYAeMRACHNAYAeSVETLAYAeTRESVETLAYA",
    "cDOUBLE ZAPYATAYAcREVERSED CHELYUSTKAcDERBITSAcKHAMILOcCHASHKAcPODCHASHIEcSKAMEYTSA MRACHNAYA",
    "dSVETLAYAdTRESVETLAYAdTIKHAYAcDEMESTVENNY KLYUCHcSKAMEYTSA KLYUCHEVAYA SVETLAYA",
    "dKLYUCHENEPOSTOYANNAYAdKLYUCHEVAYA TIKHAYAdDVOECHELNAYA PROSTAYAeSVETLAYAeNEPOSTOYANNAYA",
    "eKLYUCHEVAYAcSLOZHITIEcSLOZHITIE S ZAPYATOYdZAKRYTOEdS KRYZHEMcKRYZHcROGcFITAcKOBYLAcZMEYTSA",
    "cSTATYAcSTATYA S ZAPYATOYeKRYZHEMeZAPYATOY I KRYZHEMeKRYZHEM I ZAPYATOYdZAKRYTAYA",
    "dZAKRYTAYA S ZAPYATOYdS ROGOMeDVUMYA ZAPYATYMIeZAPYATOY I PODCHASHIEMcPOLKULIZMY",
    "cSTATYA NEPOSTOYANNAYAcSTRELA PROSTAYAdMRACHNOTIKHAYAdKRYZHEVAYAdPOLUPOVODNAYAdPOVODNAYA",
    "dNEPOSTOYANNAYAdKLYUCHEPOVODNAYAdKLYUCHENEPOSTOYANNAYAdTIKHAYA PUTNAYAdDVOECHELNAYA",
    "dDVOECHELNOKRYZHEVAYAdDVOECHELNOPOVODNAYAdDVOECHELNAYA KLYUCHEVAYAdDVOECHELNOPOVODNAYA ~",
    "dGROMNAYA WITH SINGLE ZAPYATAYAdGROMOPOVODNAYA ~dGROMNAYAdGROMOPOVODNAYA",
    "dGROMOPOVODNAYA WITH DOUBLE ZAPYATAYAdGROMOKRYZHEVAYAdGROMOKRYZHEVAYA POVODNAYAcMECHIK",
    "cMECHIK POVODNYdKLYUCHEVOYdKLYUCHEPOVODNYdKLYUCHENEPOSTOYANNYcSTRELA TRYASOGLASNAYA",
    "dTRYASOPOVODNAYAdTRYASOSTRELNAYAcOSOKAcOSOKA SVETLAYAdTRESVETLAYAdKRYUKOVAYA SVETLAYA",
    "dKLYUCHEVAYA ~eNEPOSTOYANNAYAcSTRELA KRYUKOVAYAdKRYUKOVAYA POVODNAYA",
    "eGROMNAYA WITH SINGLE ZAPYATAYAeGROMOPOVODNAYA ~eGROMNAYAeGROMOPOVODNAYA",
    "eGROMOPOVODNAYA WITH DOUBLE ZAPYATAYAeGROMOKRYZHEVAYAeGROMOKRYZHEVAYA POVODNAYAeTRYASKA",
    "cKUFISMAcOBLAKOcDUDAcNEMKAcPAUK"]

end JsonExpr.Text.CharacterName
