/-!
Further names that characters have: names of controls, abbreviations and corrections.
-/

namespace JsonExpr.Text.CharacterName

def aliases : List String :=
  ["@0aNUL@0aNULLaSOH@1aSTART OF HEADINGcTEXT@2aSTXaEND OF TEXT@3aETXaEND OF TRANSMISSION@4aEOT",
    "aENQ@5aENQUIRYaACK@6aACKNOWLEDGEaALERT@7aBELaBACKSPACE@8aBSaCHARACTER TABULATION",
    "@9aHORIZONTAL TABULATION@9aHT@9aTABaEND OF LINE@AaEOL@AaLF@AaLINE FEED@AaNEW LINE@AaNL",
    "aLINE TABULATION@BaVERTICAL TABULATION@BaVTaFF@CaFORM FEEDaCARRIAGE RETURN@DaCR",
    "aLOCKING-SHIFT ONE@EaSHIFT OUT@EaSOaLOCKING-SHIFT ZERO@FaSHIFT IN@FaSIaDATA LINK ESCAPE",
    "@10aDLEaDC1@11aDEVICE CONTROL ONEaDC2@12aDEVICE CONTROL TWOaDC3@13aDEVICE CONTROL THREEaDC4",
    "@14aDEVICE CONTROL FOURaNAK@15aNEGATIVE ACKNOWLEDGEaSYN@16aSYNCHRONOUS IDLE",
    "aEND OF TRANSMISSION BLOCK@17aETBaCAN@18aCANCELaEND OF MEDIUM@19aEOMaSUB@1AaSUBSTITUTEaESC",
    "@1BaESCAPEaFILE SEPARATOR@1CaFS@1CaINFORMATION SEPARATOR FOURaGROUP SEPARATOR@1DaGS",
    "@1DaINFORMATION SEPARATOR THREEcTWO@1EaRECORD SEPARATOR@1EaRSaINFORMATION SEPARATOR ONE",
    "@1FaUNIT SEPARATOR@1FaUSaSP@7FaDEL@7FaDELETEaPAD@80aPADDING CHARACTERaHIGH OCTET PRESET",
    "@81aHOPaBPH@82aBREAK PERMITTED HEREaNBH@83aNO BREAK HEREaIND@84aINDEXaNEL@85aNEXT LINEaSSA",
    "@86aSTART OF SELECTED AREAaEND OF SELECTED AREA@87aESAaCHARACTER TABULATION SET",
    "@88aHORIZONTAL TABULATION SET@88aHTSaCHARACTER TABULATION WITH JUSTIFICATION",
    "@89aHORIZONTAL TABULATION WITH JUSTIFICATION@89aHTJaLINE TABULATION SET",
    "@8AaVERTICAL TABULATION SET@8AaVTSaPARTIAL LINE DOWN@8BcFORWARD@8BaPLDaPARTIAL LINE BACKWARD",
    "@8CcUP@8CaPLUaREVERSE INDEX@8DbLINE FEED@8DaRIaSINGLE SHIFT TWO@8EaSINGLE-SHIFT-2@8EaSS2",
    "aSINGLE SHIFT THREE@8FaSINGLE-SHIFT-3@8FaSS3aDCS@90aDEVICE CONTROL STRINGaPRIVATE USE ONE",
    "@91bUSE-1@91aPU1aPRIVATE USE TWO@92bUSE-2@92aPU2aSET TRANSMIT STATE@93aSTSaCANCEL CHARACTER",
    "@94aCCHaMESSAGE WAITING@95aMWaSPA@96aSTART OF GUARDED AREA@96cPROTECTED AREA",
    "aEND OF GUARDED AREA@97cPROTECTED AREA@97aEPAaSOS@98aSTART OF STRINGaSGC",
    "@99aSINGLE GRAPHIC CHARACTER INTRODUCERaSCI@9AaSINGLE CHARACTER INTRODUCER",
    "aCONTROL SEQUENCE INTRODUCER@9BaCSIaST@9CaSTRING TERMINATORaOPERATING SYSTEM COMMAND@9DaOSC",
    "aPM@9EaPRIVACY MESSAGEaAPC@9FaAPPLICATION PROGRAM COMMANDaNBSP@ADaSHY",
    "@1A2aLATIN CAPITAL LETTER GHAbSMALL LETTER GHA@34FaCGJ@61CaALM",
    "@709aSYRIAC SUBLINEAR COLON SKEWED LEFT@CDEaKANNADA LETTER LLLA@E9DaLAO LETTER FO FON@E9FdFAY",
    "@EA3cRO@EA5cLO@FD0aTIBETAN MARK BKA- SHOG GI MGO RGYAN@11ECaHANGUL JONGSEONG YESIEUNG-KIYEOK",
    "dSSANGKIYEOKcSSANGYESIEUNGcYESIEUNG-KHIEUKH@180BaFVS1aFVS2aFVS3aMVSaFVS4@200BaZWSPaZWNJaZWJ",
    "aLRMaRLM@202AaLREaRLEaPDFaLROaRLOaNNBSP@205FaMMSPaWJ@2066aLRIaRLIaFSIaPDI",
    "@2118aWEIERSTRASS ELLIPTIC FUNCTION@2448aMICR ON US SYMBOLbDASH SYMBOL",
    "@2B7AaLEFTWARDS TRIANGLE-HEADED ARROW WITH DOUBLE VERTICAL STROKE",
    "@2B7CaRIGHTWARDS TRIANGLE-HEADED ARROW WITH DOUBLE VERTICAL STROKE",
    "@A015aYI SYLLABLE ITERATION MARK@AA6EaMYANMAR LETTER KHAMTI LLA@FE00aVS1aVS2aVS3aVS4aVS5aVS6",
    "aVS7aVS8aVS9aVS10aVS11aVS12aVS13aVS14aVS15aVS16",
    "@FE18aPRESENTATION FORM FOR VERTICAL RIGHT WHITE LENTICULAR BRACKET@FEFFaBOM",
    "@FEFFaBYTE ORDER MARK@FEFFaZWNBSP@122D4aCUNEIFORM SIGN NU11 TENUdOVER NU11 BUR OVER BUR",
    "@16E56aMEDEFAIDRIN CAPITAL LETTER HdNG@16E76bSMALL LETTER HdNG@1B001aHENTAIGANA LETTER E-1",
    "@1D0C5aBYZANTINE MUSICAL SYMBOL FTHORA SKLIRON CHROMA VASIS@E0100aVS17aVS18aVS19aVS20aVS21",
    "aVS22aVS23aVS24aVS25aVS26aVS27aVS28aVS29aVS30aVS31aVS32aVS33aVS34aVS35aVS36aVS37aVS38aVS39",
    "aVS40aVS41aVS42aVS43aVS44aVS45aVS46aVS47aVS48aVS49aVS50aVS51aVS52aVS53aVS54aVS55aVS56aVS57",
    "aVS58aVS59aVS60aVS61aVS62aVS63aVS64aVS65aVS66aVS67aVS68aVS69aVS70aVS71aVS72aVS73aVS74aVS75",
    "aVS76aVS77aVS78aVS79aVS80aVS81aVS82aVS83aVS84aVS85aVS86aVS87aVS88aVS89aVS90aVS91aVS92aVS93",
    "aVS94aVS95aVS96aVS97aVS98aVS99aVS100aVS101aVS102aVS103aVS104aVS105aVS106aVS107aVS108aVS109",
    "aVS110aVS111aVS112aVS113aVS114aVS115aVS116aVS117aVS118aVS119aVS120aVS121aVS122aVS123aVS124",
    "aVS125aVS126aVS127aVS128aVS129aVS130aVS131aVS132aVS133aVS134aVS135aVS136aVS137aVS138aVS139",
    "aVS140aVS141aVS142aVS143aVS144aVS145aVS146aVS147aVS148aVS149aVS150aVS151aVS152aVS153aVS154",
    "aVS155aVS156aVS157aVS158aVS159aVS160aVS161aVS162aVS163aVS164aVS165aVS166aVS167aVS168aVS169",
    "aVS170aVS171aVS172aVS173aVS174aVS175aVS176aVS177aVS178aVS179aVS180aVS181aVS182aVS183aVS184",
    "aVS185aVS186aVS187aVS188aVS189aVS190aVS191aVS192aVS193aVS194aVS195aVS196aVS197aVS198aVS199",
    "aVS200aVS201aVS202aVS203aVS204aVS205aVS206aVS207aVS208aVS209aVS210aVS211aVS212aVS213aVS214",
    "aVS215aVS216aVS217aVS218aVS219aVS220aVS221aVS222aVS223aVS224aVS225aVS226aVS227aVS228aVS229",
    "aVS230aVS231aVS232aVS233aVS234aVS235aVS236aVS237aVS238aVS239aVS240aVS241aVS242aVS243aVS244",
    "aVS245aVS246aVS247aVS248aVS249aVS250aVS251aVS252aVS253aVS254aVS255aVS256"]

end JsonExpr.Text.CharacterName
