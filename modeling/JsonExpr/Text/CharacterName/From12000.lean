/-!
The names of the characters from 12000 to 14646.
-/

namespace JsonExpr.Text.CharacterName

def from12000 : List String :=
  ["@12000aCUNEIFORM SIGN AcA TIMES AeBADeGAN2 TENUeHAeIGIeLAGAR GUNUeMUSHeSAGcA2cAB",
    "cAB TIMES ASH2eDUN3 GUNUeGALeGAN2 TENUeHAeIGI GUNUeIMINeLAGABeSHESHeU PLUS U PLUS UdGUNUcAB2",
    "cAB2 TIMES BALAGeGAN2 TENUeME PLUS ENeSHA3eTAK4cADcAKcAK TIMES ERIN2eSHITA PLUS GISHcAL",
    "cAL TIMES ALeDIM2eGISHeHAeKAD3eKIeSHEeUSHcALANcALEPHcAMARcAMAR TIMES SHEcANcAN OVER AN",
    "dTHREE TIMESdPLUS NAGA OPPOSING AN PLUS NAGAfSQUAREDcANSHEcAPINcARADcARAD TIMES KURcARKAB",
    "cASAL2cASHcASH ZIDA TENUdKABA ~dOVER ASH TUG2 OVER TUG2 TUG2 OVER TUG2 PAPfOVER ASH",
    "gASH CROSSING ASH OVER ASH OVER ASHcASH2cASHGABcBAcBADcBAG3cBAHAR2cBALcBAL OVER BALcBALAGcBAR",
    "cBARA2cBIcBI TIMES AeGAReIGI GUNUcBUcBU OVER BU ABfUNdCROSSING BUcBULUGcBULUG OVER BULUGcBUR",
    "cBUR2cDAcDAGcDAG KISIM5 TIMES A PLUS MASHfAMARfBALAGfBIfGAfGA PLUS MASHfGIfGIR2fGUDfHAfIR",
    "fIR PLUS LUfKAKfLAfLUfLU PLUS MASH2fLUMfNEfPAP PLUS PAPfSIfTAK4fU2 PLUS GIR2fUSHcDAMcDAR",
    "cDARA3cDARA4cDIcDIBcDIMcDIM TIMES SHEcDIM2cDINcDIN KASKAL U GUNU DISHcDISHcDUcDU OVER DUdGUNU",
    "dSHESHIGcDUBcDUB TIMES ESH2cDUB2cDUGcDUGUDcDUHcDUNcDUN3cDUN3 GUNUdGUNU GUNUcDUN4cDUR2cE",
    "cE TIMES PAPdOVER E NUN OVER NUNcE2cE2 TIMES A PLUS HA PLUS DAeGAReMIeSALeSHEeUcEDINcEGIRcEL",
    "cENcEN TIMES GAN2eGAN2 TENUeMEdCROSSING ENdOPPOSING ~dSQUAREDcERENcERIN2cESH2cEZEN",
    "cEZEN TIMES AeA PLUS LALgLAL TIMES LALeANeBADeDUN3 GUNUfGUNU GUNUeHAeHA GUNUeIGI ~eKASKAL",
    "eKASKAL SQUAREDeKU3eLAeLAL TIMES LALeLIeLUeU2eUDcGAcGA GUNUcGA2cGA2 TIMES A PLUS DA PLUS HA",
    "gHAgIGIeAB2 TENU PLUS TABeANeASHeASH2 PLUS GALeBADeBAR PLUS RAeBUReBUR PLUS RAeDAeDI",
    "eDIM TIMES SHEeDUBeELeEL PLUS LAeENeEN TIMES GAN2 TENUeGAN2 TENUeGAReGIeGI4eGI4 PLUS A",
    "eGIR2 PLUS SUeHA PLUS LU PLUS ESH2eHALeHAL PLUS LAeHI PLUS LIeHUB2eIGI GUNU",
    "eISH PLUS HU PLUS ASHeKAKeKASKALeKIDeKID PLUS LALeKU3 PLUS ANeLAeME PLUS ENeMIeNUN",
    "eNUN OVER NUNePAeSALeSAReSHEeSHE PLUS TUReSHIDeSUMeTAK4eUeUDeUD PLUS DUdOVER GA2cGABA",
    "cGABA CROSSING GABAcGADcGAD OVER GAD GAR OVER GARcGALcGAL GAD OVER GAD GAR OVER GARcGALAMcGAM",
    "cGANcGAN2cGAN2 TENUdOVER GAN2dCROSSING ~cGARcGAR3cGASHANcGESHTINcGESHTIN TIMES KURcGI",
    "cGI TIMES EeUdCROSSING GIcGI4cGI4 OVER GI4dCROSSING ~cGIDIMcGIR2cGIR2 GUNUcGIR3",
    "cGIR3 TIMES A PLUS IGIeGAN2 TENUeIGIeLU PLUS IGIePAcGISALcGISHcGISH CROSSING GISHdTIMES BAD",
    "eTAK4dTENUcGUcGU CROSSING GUcGU2cGU2 TIMES KAKeKAK TIMES IGI GUNUeNUNeSAL PLUS TUG2dGUNUcGUD",
    "cGUD TIMES A PLUS KUReKURdOVER GUD LUGALcGULcGUMcGUM TIMES SHEcGURcGUR7cGURUNcGURUSHcHA",
    "cHA TENUdGUNUcHALcHIcHI TIMES ASHeASH2eBADeDISHeGADeKINeNUNeSHEeUcHUcHUB2cHUB2 TIMES ANeHAL",
    "eKASKALeLISHeUDcHUL2cIcI AcIBcIDIMcIDIM OVER IDIM BURfSQUAREDcIGcIGIcIGI DIBdRI",
    "dOVER IGI SHIR OVER SHIR UD OVER UDdGUNUcILcIL TIMES GAN2 TENUcIL2cIMcIM TIMES TAK4",
    "dCROSSING IMdOPPOSING ~dSQUAREDcIMINcINcIRcISHcKAcKA TIMES AeADeAD PLUS KU3eASH2eBADeBALAG",
    "eBAReBIeERIN2eESH2eGAeGALeGAN2 TENUeGAReGAR PLUS SHA3 PLUS AeGIeGIR2eGISH PLUS SAR",
    "fCROSSING GISHeGUeGUR7eIGIeIMeKAKeKIeKIDeLIeLUeMEeME PLUS DUgGIgTEeMIeMI PLUS NUNUZeNEeNUNePI",
    "eRUeSAeSAReSHAeSHEeSHIDeSHUeSIGeSUHUReTAReUeU2eUDeUMUM TIMES PAeUSHeZIcKA2cKA2 CROSSING KA2",
    "cKABcKAD2cKAD3cKAD4cKAD5cKAD5 OVER KAD5cKAKcKAK TIMES IGI GUNUcKALcKAL TIMES BADdCROSSING KAL",
    "cKAM2cKAM4cKASKALcKASKAL LAGAB TIMES U OVER LAGAB TIMES U",
    "dOVER KASKAL LAGAB TIMES U OVER LAGAB TIMES UcKESH2cKIcKI TIMES BADeUeUDcKIDcKINcKISALcKISH",
    "cKISIM5cKISIM5 OVER KISIM5cKUcKU OVER HI TIMES ASH2 KU OVER HI TIMES ASH2cKU3cKU4",
    "cKU4 VARIANT FORMcKU7cKULcKUL GUNUcKUNcKURcKUR OPPOSING KURcKUSHU2cKWU318cLAcLAGAB",
    "cLAGAB TIMES AeA PLUS DA PLUS HAgGARgLALeALeANeASH ZIDA TENUeBADeBIeDAReENeGAeGAReGUD",
    "eGUD PLUS GUDeHAeHALeHI TIMES NUNeIGI GUNUeIMeIM PLUS HAgLUeKIeKINeKU3eKULeKUL PLUS HI PLUS A",
    "eLAGABeLISHeLUeLULeMEeME PLUS ENeMUSHeNEeSHE PLUS SUMeSHITA PLUS GISH PLUS ERIN2hTENUeSHU2",
    "eSHU2 PLUS SHU2eSUMeTAGeTAK4eTE PLUS A PLUS SU PLUS NAeUeU PLUS AgU PLUS UeU2 PLUS ASHeUDeUSH",
    "dSQUAREDcLAGARcLAGAR TIMES SHEeSHE PLUS SUMdGUNUdGUNU OVER LAGAR GUNU SHEcLAHSHUcLAL",
    "cLAL TIMES LALcLAMcLAM TIMES KUReKUR PLUS RUcLIcLILcLIMMU2cLISHcLUcLU TIMES BADcLU2",
    "cLU2 TIMES ALeBADeESH2eESH2 TENUeGAN2 ~eHI TIMES BADeIMeKAD2eKAD3eKAD3 PLUS ASHeKI",
    "eLA PLUS ASHeLAGABeME PLUS ENeNEeNUeSI PLUS ASHeSIK2 PLUS BUeTUG2dTENUdCROSSING LU2",
    "dOPPOSING ~dSQUAREDdSHESHIGcLU3cLUGALcLUGAL OVER LUGALdOPPOSING ~dSHESHIGcLUHcLULcLUM",
    "cLUM OVER LUMeLUM GAR OVER GARcMAcMA TIMES TAK4dGUNUcMA2cMAHcMARcMASHcMASH2cMEcMEScMIcMINcMU",
    "cMU OVER MUcMUGcMUG GUNUcMUNSUBcMURGU2cMUSHcMUSH TIMES AeKUReZAdOVER MUSH",
    "eMUSH TIMES A PLUS NAdCROSSING MUSHcMUSH3cMUSH3 TIMES AeA PLUS DIeDIdGUNUcNAcNA2cNAGA",
    "cNAGA INVERTEDdTIMES SHU TENUdOPPOSING NAGAcNAGARcNAM NUTILLUcNAMcNAM2cNEcNE TIMES AeUD",
    "dSHESHIGcNIcNI TIMES EcNI2cNIMcNIM TIMES GAN2 TENUeGAR PLUS GAN2 TENUcNINDA2cNINDA2 TIMES AN",
    "eASHeASH PLUS ASHeGUDeME PLUS GAN2 TENUeNEeNUNeSHEeSHE PLUS A ANgASHgASH PLUS ASHeU2 PLUS ASH",
    "eUSHcNISAGcNUcNU11cNUNcNUN LAGAR TIMES GARfMASHfSALfSAL OVER NUN LAGAR TIMES SALfUSHdTENU",
    "dOVER NUNdCROSSING ~eNUN LAGAR OVER LAGARcNUNUZcNUNUZ AB2 TIMES ASHGABfBIfDUGfGUDfIGI GUNU",
    "fKAD3fLAfNEfSILA3fU2dKISIM5 TIMES BIfBI UcPAcPADcPANcPAPcPESH2cPIcPI TIMES AeABeBIeBUeEeIeIB",
    "eUeU2dCROSSING PIcPIRIGcPIRIG TIMES KALeUDeZAdOPPOSING PIRIGcRAcRABcRIcRUcSAcSAG NUTILLUcSAG",
    "cSAG TIMES AeDUeDUBeHAeKAKeKUReLUMeMIeNUNeSALeSHIDeTABeU2eUBeUMeUReUSHdOVER SAGdGUNUcSAL",
    "cSAL LAGAB TIMES ASH2cSANGA2cSARcSHAcSHA3cSHA3 TIMES AeBADeGISHeNEeSHU2eTUReUeU PLUS AcSHA6",
    "cSHAB6cSHAR2cSHEcSHE HUdOVER SHE GAD OVER GAD GAR OVER GARfTAB OVER TAB ~cSHEG9cSHENcSHESH",
    "cSHESH2cSHESHLAMcSHIDcSHID TIMES AeIMcSHIMcSHIM TIMES AeBALeBULUGeDINeGAReIGIeIGI GUNUeKUSHU2",
    "eLULeMUGeSALcSHINIGcSHIRcSHIR TENUdOVER SHIR BUR OVER BURcSHITAcSHUcSHU OVER INVERTED SHU",
    "cSHU2cSHUBURcSIcSI GUNUcSIGcSIG4cSIG4 OVER SIG4 SHU2cSIK2cSILA3cSUcSU OVER SUcSUDcSUD2cSUHUR",
    "cSUMcSUMASHcSURcSUR9cTAcTA ASTERISKdTIMES HIeMIdGUNUcTAB",
    "cTAB OVER TAB NI OVER NI DISH OVER DISHdSQUAREDcTAGcTAG TIMES BIeGUDeSHEeSHUeTUG2eUDcTAK4cTAR",
    "cTEcTE GUNUcTIcTI TENUcTILcTIRcTIR TIMES TAK4dOVER TIReTIR GAD OVER GAD GAR OVER GARcTUcTUG2",
    "cTUKcTUMcTURcTUR OVER TUR ZA OVER ZAcUcU GUDdU UdOVER U PA OVER PA GAR OVER GARfSUR OVER SUR",
    "fU REVERSED OVER U REVERSEDcU2cUBcUDcUD KUSHU2dTIMES BADeMIeU PLUS U PLUS UiU GUNUdGUNU",
    "dSHESHIGdSHESHIG TIMES BADcUDUGcUMcUM TIMES LAGABeME PLUS DAeSHA3eUcUMBINcUMUM",
    "cUMUM TIMES KASKALePAcUNcUN GUNUcURcUR CROSSING URdSHESHIGcUR2cUR2 TIMES A PLUS HAgNAeALeHA",
    "eNUNeU2eU2 PLUS ASHgBIcUR4cURIcURI3cURUcURU TIMES AeASHGABeBAReDUNeGAeGALeGAN2 TENUeGAReGUeHA",
    "eIGIeIMeISHeKIeLUMeMINePAeSHEeSIG4eTUeU PLUS GUDeUDeURUDAcURUDAcURUDA TIMES UcUSHcUSH TIMES A",
    "eKUeKUReTAK4cUSHXcUSH2cUSHUMXcUTUKIcUZ3cUZ3 TIMES KASKALcUZUcZAcZA TENUdSQUARED TIMES KURcZAG",
    "cZAMXcZE2cZIcZI OVER ZIcZI3cZIBcZIB KABA TENUcZIGcZIZ2cZUcZU5cZU5 TIMES AcZUBURcZUM",
    "cKAP ELAMITEcAB TIMES NUNcAB2 TIMES AcAMAR TIMES KUGcDAG KISIM5 TIMES U2 PLUS MASHcDAG3",
    "cDISH PLUS SHUcDUB TIMES SHEcEZEN TIMES GUDeSHEcGA2 TIMES AN PLUS KAK PLUS AeASH2cGE22cGIG",
    "cHUSHcKA TIMES ANSHEeASH3eGISHeGUDeHI TIMES ASH2eLUMePAeSHULeTUeUR2cLAGAB TIMES GI",
    "cLU2 SHESHIG TIMES BADdTIMES ESH2 PLUS LALeSHUcMESHcMUSH3 TIMES ZAcNA4cNINcNIN9",
    "cNINDA2 TIMES BALeGIcNU11 ROTATED NINETY DEGREEScPESH2 ASTERISKcPIR2cSAG TIMES IGI GUNUcTI2",
    "cUM TIMES MEcU U@12400bNUMERIC SIGN TWO ASHdTHREE ~dFOUR ~dFIVE ~dSIX ~dSEVEN ~dEIGHT ~",
    "dNINE ~dTHREE DISHdFOUR ~dFIVE ~dSIX ~dSEVEN ~dEIGHT ~dNINE ~dFOUR UdFIVE UdSIX UdSEVEN U",
    "dEIGHT UdNINE UdONE GESH2dTWO ~dTHREE ~dFOUR ~dFIVE ~dSIX ~dSEVEN ~dEIGHT ~dNINE ~dONE GESHU",
    "dTWO ~dTHREE ~dFOUR ~dFIVE ~dTWO SHAR2dTHREE ~eSHAR2 VARIANT FORMdFOUR SHAR2dFIVE ~dSIX ~",
    "dSEVEN ~dEIGHT ~dNINE ~dONE SHARUdTWO ~dTHREE ~eSHARU VARIANT FORMdFOUR SHARUdFIVE ~",
    "dSHAR2 TIMES GAL PLUS DISHhMINdONE BURUdTWO ~dTHREE ~eBURU VARIANT FORMdFOUR BURUdFIVE ~",
    "dTHREE VARIANT FORM ESH16gESH21dFOUR VARIANT FORM LIMMUgLIMMU4gLIMMU AhB",
    "dSIX VARIANT FORM ASH9dSEVEN VARIANT FORM IMIN3gIMIN AhBdEIGHT VARIANT FORM USSUgUSSU3",
    "dNINE VARIANT FORM ILIMMUgILIMMU3gILIMMU4gILIMMU AdTWO ASH TENUdTHREE ~dFOUR ~dFIVE ~dSIX ~",
    "dONE BAN2dTWO ~dTHREE ~dFOUR ~eBAN2 VARIANT FORMdFIVE BAN2eBAN2 VARIANT FORMdNIGIDAMIN",
    "dNIGIDAESHdONE ESHE3dTWO ~dONE THIRD DISHdTWO THIRDS ~dFIVE SIXTHS ~dONE THIRD VARIANT FORM A",
    "dTWO THIRDS ~dONE EIGHTH ASHeQUARTER ~dOLD ASSYRIAN ONE SIXTHgQUARTERdONE QUARTER GUReHALF ~",
    "dELAMITE ONE THIRDeTWO THIRDSeFORTYeFIFTYdFOUR U VARIANT FORMdFIVE ~dSIX ~dSEVEN ~dEIGHT ~",
    "dNINE ~@12470bPUNCTUATION SIGN OLD ASSYRIAN WORD DIVIDERdVERTICAL COLONdDIAGONAL ~eTRICOLON",
    "eQUADCOLON@12480bSIGN AB TIMES NUN TENUeSHU2cAD TIMES ESH2cBAD TIMES DISH TENU",
    "cBAHAR2 TIMES AB2eNIeZAcBU OVER BU TIMES NA2cDA TIMES TAK4cDAG TIMES KURcDIM TIMES IGIeU U U",
    "cDIM2 TIMES UDcDUG TIMES ANSHEeASHeASH AT LEFTeDINeDUNeERIN2eGAeGIeGIR2 GUNUeGISHeHAeHI",
    "eIGI GUNUeKASKALeKUReKUSHU2eKUSHU2 PLUS KASKALeLAK-020eLAMeLAM TIMES KUReLUH PLUS GISHeMASH",
    "eMESeMIeNIePIeSHEeSI GUNUcE2 TIMES KURePAPcERIN2 XcESH2 CROSSING ESH2cEZEN SHESHIG TIMES ASH",
    "fHIfIGI GUNUfLAfLALfMEfMESfSUdTIMES SUcGA2 TIMES BAHAR2eDIM GUNUeDUG TIMES IGI GUNUgKASKAL",
    "eERENeGAeGAR PLUS DIgNEeHA PLUS AeKUSHU2 PLUS KASKALeLAMeLAM TIMES KUReLUHeMUSHeNEeNE PLUS E2",
    "gGIeSHIMeZIZ2cGABA ROTATED NINETY DEGREEScGESHTIN TIMES UcGISH TIMES GISH CROSSING GISH",
    "cGU2 TIMES IGI GUNUcGUD PLUS GISH TIMES TAK4cHA TENU GUNUcHI TIMES ASH OVER HI TIMES ASH",
    "cKA TIMES BUeKAeU U UeURcLAGAB TIMES ZU OVER ZUcLAK-003d021d025d030d050d051d062",
    "d079 OVER LAK-079 GUNUd080d081 OVER LAK-081d092d130d142d210d219d220d225d228d238d265d266d343",
    "d347d348d383d384d390d441d449d449 TIMES GUfIGIfPAP PLUS LU3hPAP PLUS LU3fU2 PLUS BAd450d457",
    "d470d483d490d492d493d495d550d608d617d617 TIMES ASHfBADfDUN3 GUNU GUNUfKU3fLAfTARfTEfU2fUD",
    "fURUDAd636d648d648 TIMES DUBfGAfIGIfIGI GUNUfNIfPAP PLUS PAP PLUS LU3fSHESH PLUS KIfUDfURUDA",
    "d724d749cLU2 GUNU TIMES ASHdTIMES DISHeHALePAPePAP PLUS PAP PLUS LU3eTAK4cMI PLUS ZA7",
    "cMUSH OVER MUSH TIMES GAgKAKcNINDA2 TIMES DIM GUNUeGISHeGULeHIeKESH2eLAK-050eMASH",
    "ePAP PLUS PAPeUeU PLUS UeURUDAcSAG GUNU TIMES HAdTIMES ENeSHE AT LEFTeTAK4cSHA6 TENU",
    "cSHE OVER SHEdPLUS HUB2eNAM2eSARcSHU2 PLUS DUG TIMES NIeE2 TIMES ANcSI TIMES TAK4",
    "cTAK4 PLUS SAGcTUM TIMES GAN2 TENUeTHREE DISHcUR2 INVERTEDdTIMES UDcURU TIMES DARA3eLAK-668",
    "eLU3cZA7cZU OVER ZU PLUS SARcZU5 TIMES THREE DISH TENU@12F90aCYPRO-MINOAN SIGN CM001dCM002",
    "dCM004dCM005dCM006dCM007dCM008dCM009dCM010dCM011dCM012dCM012BdCM013dCM015dCM017dCM019dCM021",
    "dCM023dCM024dCM025dCM026dCM027dCM028dCM029dCM030dCM033dCM034dCM035dCM036dCM037dCM038dCM039",
    "dCM040dCM041dCM044dCM046dCM047dCM049dCM050dCM051dCM052dCM053dCM054dCM055dCM056dCM058dCM059",
    "dCM060dCM061dCM062dCM063dCM064dCM066dCM067dCM068dCM069dCM070dCM071dCM072dCM073dCM074dCM075",
    "dCM075BdCM076dCM078dCM079dCM080dCM081dCM082dCM083dCM084dCM085dCM086dCM087dCM088dCM089dCM090",
    "dCM091dCM092dCM094dCM095dCM096dCM097dCM098dCM099dCM100dCM101dCM102dCM103dCM104dCM105dCM107",
    "dCM108dCM109dCM110dCM112dCM114dCM301dCM302@13000aEGYPTIAN HIEROGLYPH A001cA002cA003cA004cA005",
    "cA005AcA006cA006AcA006BcA007cA008cA009cA010cA011cA012cA013cA014cA014AcA015cA016cA017cA017A",
    "cA018cA019cA020cA021cA022cA023cA024cA025cA026cA027cA028cA029cA030cA031cA032cA032AcA033cA034",
    "cA035cA036cA037cA038cA039cA040cA040AcA041cA042cA042AcA043cA043AcA044cA045cA045AcA046cA047",
    "cA048cA049cA050cA051cA052cA053cA054cA055cA056cA057cA058cA059cA060cA061cA062cA063cA064cA065",
    "cA066cA067cA068cA069cA070cB001cB002cB003cB004cB005cB005AcB006cB007cB008cB009cC001cC002cC002A",
    "cC002BcC002CcC003cC004cC005cC006cC007cC008cC009cC010cC010AcC011cC012cC013cC014cC015cC016cC017",
    "cC018cC019cC020cC021cC022cC023cC024cD001cD002cD003cD004cD005cD006cD007cD008cD008AcD009cD010",
    "cD011cD012cD013cD014cD015cD016cD017cD018cD019cD020cD021cD022cD023cD024cD025cD026cD027cD027A",
    "cD028cD029cD030cD031cD031AcD032cD033cD034cD034AcD035cD036cD037cD038cD039cD040cD041cD042cD043",
    "cD044cD045cD046cD046AcD047cD048cD048AcD049cD050cD050AcD050BcD050CcD050DcD050EcD050FcD050G",
    "cD050HcD050IcD051cD052cD052AcD053cD054cD054AcD055cD056cD057cD058cD059cD060cD061cD062cD063",
    "cD064cD065cD066cD067cD067AcD067BcD067CcD067DcD067EcD067FcD067GcD067HcE001cE002cE003cE004cE005",
    "cE006cE007cE008cE008AcE009cE009AcE010cE011cE012cE013cE014cE015cE016cE016AcE017cE017AcE018",
    "cE019cE020cE020AcE021cE022cE023cE024cE025cE026cE027cE028cE028AcE029cE030cE031cE032cE033cE034",
    "cE034AcE036cE037cE038cF001cF001AcF002cF003cF004cF005cF006cF007cF008cF009cF010cF011cF012cF013",
    "cF013AcF014cF015cF016cF017cF018cF019cF020cF021cF021AcF022cF023cF024cF025cF026cF027cF028cF029",
    "cF030cF031cF031AcF032cF033cF034cF035cF036cF037cF037AcF038cF038AcF039cF040cF041cF042cF043cF044",
    "cF045cF045AcF046cF046AcF047cF047AcF048cF049cF050cF051cF051AcF051BcF051CcF052cF053cG001cG002",
    "cG003cG004cG005cG006cG006AcG007cG007AcG007BcG008cG009cG010cG011cG011AcG012cG013cG014cG015",
    "cG016cG017cG018cG019cG020cG020AcG021cG022cG023cG024cG025cG026cG026AcG027cG028cG029cG030cG031",
    "cG032cG033cG034cG035cG036cG036AcG037cG037AcG038cG039cG040cG041cG042cG043cG043AcG044cG045",
    "cG045AcG046cG047cG048cG049cG050cG051cG052cG053cG054cH001cH002cH003cH004cH005cH006cH006AcH007",
    "cH008cI001cI002cI003cI004cI005cI005AcI006cI007cI008cI009cI009AcI010cI010AcI011cI011AcI012",
    "cI013cI014cI015cK001cK002cK003cK004cK005cK006cK007cK008cL001cL002cL002AcL003cL004cL005cL006",
    "cL006AcL007cL008cM001cM001AcM001BcM002cM003cM003AcM004cM005cM006cM007cM008cM009cM010cM010A",
    "cM011cM012cM012AcM012BcM012CcM012DcM012EcM012FcM012GcM012HcM013cM014cM015cM015AcM016cM016A",
    "cM017cM017AcM018cM019cM020cM021cM022cM022AcM023cM024cM024AcM025cM026cM027cM028cM028AcM029",
    "cM030cM031cM031AcM032cM033cM033AcM033BcM034cM035cM036cM037cM038cM039cM040cM040AcM041cM042",
    "cM043cM044cN001cN002cN003cN004cN005cN006cN007cN008cN009cN010cN011cN012cN013cN014cN015cN016",
    "cN017cN018cN018AcN018BcN019cN020cN021cN022cN023cN024cN025cN025AcN026cN027cN028cN029cN030cN031",
    "cN032cN033cN033AcN034cN034AcN035cN035AcN036cN037cN037AcN038cN039cN040cN041cN042cNL001cNL002",
    "cNL003cNL004cNL005cNL005AcNL006cNL007cNL008cNL009cNL010cNL011cNL012cNL013cNL014cNL015cNL016",
    "cNL017cNL017AcNL018cNL019cNL020cNU001cNU002cNU003cNU004cNU005cNU006cNU007cNU008cNU009cNU010",
    "cNU010AcNU011cNU011AcNU012cNU013cNU014cNU015cNU016cNU017cNU018cNU018AcNU019cNU020cNU021cNU022",
    "cNU022AcO001cO001AcO002cO003cO004cO005cO005AcO006cO006AcO006BcO006CcO006DcO006EcO006FcO007",
    "cO008cO009cO010cO010AcO010BcO010CcO011cO012cO013cO014cO015cO016cO017cO018cO019cO019AcO020",
    "cO020AcO021cO022cO023cO024cO024AcO025cO025AcO026cO027cO028cO029cO029AcO030cO030AcO031cO032",
    "cO033cO033AcO034cO035cO036cO036AcO036BcO036CcO036DcO037cO038cO039cO040cO041cO042cO043cO044",
    "cO045cO046cO047cO048cO049cO050cO050AcO050BcO051cP001cP001AcP002cP003cP003AcP004cP005cP006",
    "cP007cP008cP009cP010cP011cQ001cQ002cQ003cQ004cQ005cQ006cQ007cR001cR002cR002AcR003cR003AcR003B",
    "cR004cR005cR006cR007cR008cR009cR010cR010AcR011cR012cR013cR014cR015cR016cR016AcR017cR018cR019",
    "cR020cR021cR022cR023cR024cR025cR026cR027cR028cR029cS001cS002cS002AcS003cS004cS005cS006cS006A",
    "cS007cS008cS009cS010cS011cS012cS013cS014cS014AcS014BcS015cS016cS017cS017AcS018cS019cS020cS021",
    "cS022cS023cS024cS025cS026cS026AcS026BcS027cS028cS029cS030cS031cS032cS033cS034cS035cS035AcS036",
    "cS037cS038cS039cS040cS041cS042cS043cS044cS045cS046cT001cT002cT003cT003AcT004cT005cT006cT007",
    "cT007AcT008cT008AcT009cT009AcT010cT011cT011AcT012cT013cT014cT015cT016cT016AcT017cT018cT019",
    "cT020cT021cT022cT023cT024cT025cT026cT027cT028cT029cT030cT031cT032cT032AcT033cT033AcT034cT035",
    "cT036cU001cU002cU003cU004cU005cU006cU006AcU006BcU007cU008cU009cU010cU011cU012cU013cU014cU015",
    "cU016cU017cU018cU019cU020cU021cU022cU023cU023AcU024cU025cU026cU027cU028cU029cU029AcU030cU031",
    "cU032cU032AcU033cU034cU035cU036cU037cU038cU039cU040cU041cU042cV001cV001AcV001BcV001CcV001D",
    "cV001EcV001FcV001GcV001HcV001IcV002cV002AcV003cV004cV005cV006cV007cV007AcV007BcV008cV009cV010",
    "cV011cV011AcV011BcV011CcV012cV012AcV012BcV013cV014cV015cV016cV017cV018cV019cV020cV020AcV020B",
    "cV020CcV020DcV020EcV020FcV020GcV020HcV020IcV020JcV020KcV020LcV021cV022cV023cV023AcV024cV025",
    "cV026cV027cV028cV028AcV029cV029AcV030cV030AcV031cV031AcV032cV033cV033AcV034cV035cV036cV037",
    "cV037AcV038cV039cV040cV040AcW001cW002cW003cW003AcW004cW005cW006cW007cW008cW009cW009AcW010",
    "cW010AcW011cW012cW013cW014cW014AcW015cW016cW017cW017AcW018cW018AcW019cW020cW021cW022cW023",
    "cW024cW024AcW025cX001cX002cX003cX004cX004AcX004BcX005cX006cX006AcX007cX008cX008AcY001cY001A",
    "cY002cY003cY004cY005cY006cY007cY008cZ001cZ002cZ002AcZ002BcZ002CcZ002DcZ003cZ003AcZ003BcZ004",
    "cZ004AcZ005cZ005AcZ006cZ007cZ008cZ009cZ010cZ011cZ012cZ013cZ014cZ015cZ015AcZ015BcZ015CcZ015D",
    "cZ015EcZ015FcZ015GcZ015HcZ015IcZ016cZ016AcZ016BcZ016CcZ016DcZ016EcZ016FcZ016GcZ016HcAA001",
    "cAA002cAA003cAA004cAA005cAA006cAA007cAA007AcAA007BcAA008cAA009cAA010cAA011cAA012cAA013cAA014",
    "cAA015cAA016cAA017cAA018cAA019cAA020cAA021cAA022cAA023cAA024cAA025cAA026cAA027cAA028cAA029",
    "cAA030cAA031cAA032@13430cVERTICAL JOINERcHORIZONTAL ~cINSERT AT TOP STARTeBOTTOM ~eTOP END",
    "eBOTTOM ~cOVERLAY MIDDLEcBEGIN SEGMENTcEND ~@14400aANATOLIAN HIEROGLYPH A001cA002cA003cA004",
    "cA005cA006cA007cA008cA009cA010cA010AcA011cA012cA013cA014cA015cA016cA017cA018cA019cA020cA021",
    "cA022cA023cA024cA025cA026cA026AcA027cA028cA029cA030cA031cA032cA033cA034cA035cA036cA037cA038",
    "cA039cA039AcA040cA041cA041AcA042cA043cA044cA045cA045AcA046cA046AcA046BcA047cA048cA049cA050",
    "cA051cA052cA053cA054cA055cA056cA057cA058cA059cA060cA061cA062cA063cA064cA065cA066cA066AcA066B",
    "cA066CcA067cA068cA069cA070cA071cA072cA073cA074cA075cA076cA077cA078cA079cA080cA081cA082cA083",
    "cA084cA085cA086cA087cA088cA089cA090cA091cA092cA093cA094cA095cA096cA097cA097AcA098cA098AcA099",
    "cA100cA100AcA101cA101AcA102cA102AcA103cA104cA104AcA104BcA104CcA105cA105AcA105BcA106cA107",
    "cA107AcA107BcA107CcA108cA109cA110cA110AcA110BcA111cA112cA113cA114cA115cA115AcA116cA117cA118",
    "cA119cA120cA121cA122cA123cA124cA125cA125AcA126cA127cA128cA129cA130cA131cA132cA133cA134cA135",
    "cA135AcA136cA137cA138cA139cA140cA141cA142cA143cA144cA145cA146cA147cA148cA149cA150cA151cA152",
    "cA153cA154cA155cA156cA157cA158cA159cA160cA161cA162cA163cA164cA165cA166cA167cA168cA169cA170",
    "cA171cA172cA173cA174cA175cA176cA177cA178cA179cA180cA181cA182cA183cA184cA185cA186cA187cA188",
    "cA189cA190cA191cA192cA193cA194cA195cA196cA197cA198cA199cA200cA201cA202cA202AcA202BcA203cA204",
    "cA205cA206cA207cA207AcA208cA209cA209AcA210cA211cA212cA213cA214cA215cA215AcA216cA216AcA217",
    "cA218cA219cA220cA221cA222cA223cA224cA225cA226cA227cA227AcA228cA229cA230cA231cA232cA233cA234",
    "cA235cA236cA237cA238cA239cA240cA241cA242cA243cA244cA245cA246cA247cA248cA249cA250cA251cA252",
    "cA253cA254cA255cA256cA257cA258cA259cA260cA261cA262cA263cA264cA265cA266cA267cA267AcA268cA269",
    "cA270cA271cA272cA273cA274cA275cA276cA277cA278cA279cA280cA281cA282cA283cA284cA285cA286cA287",
    "cA288cA289cA289AcA290cA291cA292cA293cA294cA294AcA295cA296cA297cA298cA299cA299AcA300cA301cA302",
    "cA303cA304cA305cA306cA307cA308cA309cA309AcA310cA311cA312cA313cA314cA315cA316cA317cA318cA319",
    "cA320cA321cA322cA323cA324cA325cA326cA327cA328cA329cA329AcA330cA331cA332AcA332BcA332CcA333",
    "cA334cA335cA336cA336AcA336BcA336CcA337cA338cA339cA340cA341cA342cA343cA344cA345cA346cA347cA348",
    "cA349cA350cA351cA352cA353cA354cA355cA356cA357cA358cA359cA359AcA360cA361cA362cA363cA364cA364A",
    "cA365cA366cA367cA368cA368AcA369cA370cA371cA371AcA372cA373cA374cA375cA376cA377cA378cA379cA380",
    "cA381cA381AcA382cA383 RA OR RIcA383AcA384cA385cA386cA386AcA387cA388cA389cA390cA391cA392",
    "cA393 EIGHTcA394cA395cA396cA397cA398cA399cA400cA401cA402cA403cA404cA405cA406cA407cA408cA409",
    "cA410 BEGIN LOGOGRAM MARKcA410A END ~cA411cA412cA413cA414cA415cA416cA417cA418cA419cA420cA421",
    "cA422cA423cA424cA425cA426cA427cA428cA429cA430cA431cA432cA433cA434cA435cA436cA437cA438cA439",
    "cA440cA441cA442cA443cA444cA445cA446cA447cA448cA449cA450cA450AcA451cA452cA453cA454cA455cA456",
    "cA457cA457AcA458cA459cA460cA461cA462cA463cA464cA465cA466cA467cA468cA469cA470cA471cA472cA473",
    "cA474cA475cA476cA477cA478cA479cA480cA481cA482cA483cA484cA485cA486cA487cA488cA489cA490cA491",
    "cA492cA493cA494cA495cA496cA497cA501cA502cA503cA504cA505cA506cA507cA508cA509cA510cA511cA512",
    "cA513cA514cA515cA516cA517cA518cA519cA520cA521cA522cA523cA524cA525cA526cA527cA528cA529cA530"]

end JsonExpr.Text.CharacterName
