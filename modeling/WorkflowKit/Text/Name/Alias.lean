/-
# Further names of characters

Control characters and variation selectors, corrections of names, and abbreviations.  The names are
written as `WorkflowKit.Text.Name` says.
-/

namespace WorkflowKit
namespace Text
namespace Name

/-- Names that characters have beside their own ones. -/
def aliases : String := "
aNUL<0>dLaSOH<1>bTART OF HEADINGjTEXT<2>cXaEND OF TEXT<3>bTXbND OF TRANSMISSION<4>bOTbNQ<5>dUIRY
aACK<6>dNOWLEDGEbLERT<7>aBELbACKSPACE<8>bSaCHARACTER TABULATION<9>aHORIZONTAL TABULATION<9>bT
<9>aTABaEND OF LINE<A>bOL<A>aLF<A>bINE FEED<A>aNEW LINE<A>bLaLINE TABULATION
<B>aVERTICAL TABULATION<B>bTaFF<C>bORM FEEDaCARRIAGE RETURN<D>bRaLOCKING-SHIFT ONE<E>aSHIFT OUT
<E>bOaLOCKING-SHIFT ZERO<F>aSHIFT IN<F>bIaDATA LINK ESCAPE<10>bLEbC1<11>bEVICE CONTROL ONEbC2
<12>bEVICE CONTROL TWObC3<13>bEVICE CONTROL THREEbC4<14>bEVICE CONTROL FOURaNAK
<15>bEGATIVE ACKNOWLEDGEaSYN<16>dCHRONOUS IDLEaEND OF TRANSMISSION BLOCK<17>bTBaCAN<18>dCEL
aEND OF MEDIUM<19>bOMaSUB<1A>dSTITUTEaESC<1B>dAPEaFILE SEPARATOR<1C>bS
<1C>aINFORMATION SEPARATOR FOURaGROUP SEPARATOR<1D>bS<1D>aINFORMATION SEPARATOR THREExWO
<1E>aRECORD SEPARATOR<1E>bSaINFORMATION SEPARATOR ONE<1F>aUNIT SEPARATOR<1F>bSaSP<7F>aDEL<7F>dETE
aPAD<80>dDING CHARACTERaHIGH OCTET PRESET<81>bOPaBPH<82>bREAK PERMITTED HEREaNBH<83>bO BREAK HERE
aIND<84>dEXaNEL<85>cXT LINEaSSA<86>bTART OF SELECTED AREAaEND OF SELECTED AREA<87>bSA
aCHARACTER TABULATION SET<88>aHORIZONTAL TABULATION SET<88>bTS
aCHARACTER TABULATION WITH JUSTIFICATION<89>aHORIZONTAL TABULATION WITH JUSTIFICATION<89>bTJ
aLINE TABULATION SET<8A>aVERTICAL TABULATION SET<8A>bTSaPARTIAL LINE DOWN<8B>nFORWARD<8B>bLD
bARTIAL LINE BACKWARD<8C>nUP<8C>bLUaREVERSE INDEX<8D>iLINE FEED<8D>bIaSINGLE SHIFT TWO
<8E>g-SHIFT-2<8E>bS2bINGLE SHIFT THREE<8F>g-SHIFT-3<8F>bS3aDCS<90>bEVICE CONTROL STRING
aPRIVATE USE ONE<91>l-1<91>bU1bRIVATE USE TWO<92>l-2<92>bU2aSET TRANSMIT STATE<93>bTS
aCANCEL CHARACTER<94>bCHaMESSAGE WAITING<95>bWaSPA<96>bTART OF GUARDED AREA<96>jPROTECTED AREA
aEND OF GUARDED AREA<97>hPROTECTED AREA<97>bPAaSOS<98>bTART OF STRINGbGC
<99>bINGLE GRAPHIC CHARACTER INTRODUCERbCI<9A>bINGLE CHARACTER INTRODUCER
aCONTROL SEQUENCE INTRODUCER<9B>bSIaST<9C>cRING TERMINATORaOPERATING SYSTEM COMMAND<9D>bSCaPM
<9E>bRIVACY MESSAGEaAPC<9F>cPLICATION PROGRAM COMMANDaNBSP<AD>aSHY<1A2>aLATIN CAPITAL LETTER GHA
gSMALL LETTER GHA<34F>aCGJ<61C>aALM<709>aSYRIAC SUBLINEAR COLON SKEWED LEFT
<CDE>aKANNADA LETTER LLLA<E9D>aLAO LETTER FO FON<E9F>pAY<EA3>lRO<EA5>lLO
<FD0>aTIBETAN MARK BKA- SHOG GI MGO RGYAN<11EC>aHANGUL JONGSEONG YESIEUNG-KIYEOKzbSSANGKIYEOK
rSSANGYESIEUNGrYESIEUNG-KHIEUKH<180B>aFVS1d2d3aMVSaFVS4<200B>aZWSPcNJcJaLRMaRLM<202A>aLREaRLEaPDF
aLROaRLOaNNBSP<205F>aMMSPaWJ<2066>aLRIaRLIaFSIaPDI<2118>aWEIERSTRASS ELLIPTIC FUNCTION
<2448>aMICR ON US SYMBOLfDASH SYMBOL
<2B7A>aLEFTWARDS TRIANGLE-HEADED ARROW WITH DOUBLE VERTICAL STROKE
<2B7C>aRIGHTWARDS TRIANGLE-HEADED ARROW WITH DOUBLE VERTICAL STROKE
<A015>aYI SYLLABLE ITERATION MARK<AA6E>aMYANMAR LETTER KHAMTI LLA<FE00>aVS1c2c3c4c5c6c7c8c9c10d1d2
d3d4d5d6<FE18>aPRESENTATION FORM FOR VERTICAL RIGHT WHITE LENTICULAR BRACKET<FEFF>aBOM
<FEFF>bYTE ORDER MARK<FEFF>aZWNBSP<122D4>aCUNEIFORM SIGN NU11 TENUuOVER NU11 BUR OVER BUR
<16E56>aMEDEFAIDRIN CAPITAL LETTER HzcNG<16E76>mSMALL LETTER HzNG<1B001>aHENTAIGANA LETTER E-1
<1D0C5>aBYZANTINE MUSICAL SYMBOL FTHORA SKLIRON CHROMA VASIS<E0100>aVS17d8d9c20d1d2d3d4d5d6d7d8d9
c30d1d2d3d4d5d6d7d8d9c40d1d2d3d4d5d6d7d8d9c50d1d2d3d4d5d6d7d8d9c60d1d2d3d4d5d6d7d8d9c70d1d2d3d4d5
d6d7d8d9c80d1d2d3d4d5d6d7d8d9c90d1d2d3d4d5d6d7d8d9c100e1e2e3e4e5e6e7e8e9d10e1e2e3e4e5e6e7e8e9d20e1
e2e3e4e5e6e7e8e9d30e1e2e3e4e5e6e7e8e9d40e1e2e3e4e5e6e7e8e9d50e1e2e3e4e5e6e7e8e9d60e1e2e3e4e5e6e7e8
e9d70e1e2e3e4e5e6e7e8e9d80e1e2e3e4e5e6e7e8e9d90e1e2e3e4e5e6e7e8e9c200e1e2e3e4e5e6e7e8e9d10e1e2e3e4
e5e6e7e8e9d20e1e2e3e4e5e6e7e8e9d30e1e2e3e4e5e6e7e8e9d40e1e2e3e4e5e6e7e8e9d50e1e2e3e4e5e6"

end Name
end Text
end WorkflowKit
