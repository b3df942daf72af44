/-!
# Names of characters up to `U+1FFF`

The alphabets in use, with their accented letters and signs.
-/

namespace RepoSurvey
namespace Text

/-- The names, in the form that `Text.codeIn?` reads. -/
def alphabeticNames : String :=
  "32SPACE,EXCLAMATION MARK,QUOTATIONa,NUMBER SIGN,DOLLARa,PERCENTa,AMPERSAND,APOSTROPHE,LEFT PARENTHESIS,RIGHTa
ASTERISK,PLUS SIGN,COMMA,HYPHEN-MINUS,FULL STOP,SOLIDUS,DIGIT ZERO,aONE,aTWO,aTHREE,aFOUR,aFIVE,aSIX,aSEVEN,aEIGHT
aNINE,COLON,SEMICOLON,LESS-THAN SIGN,EQUALSa,GREATER-THANa,QUESTION MARK,COMMERCIAL AT,LATIN CAPITAL LETTER A,cB,cC
cD,cE,cF,cG,cH,cI,cJ,cK,cL,cM,cN,cO,cP,cQ,cR,cS,cT,cU,cV,cW,cX,cY,cZ,LEFT SQUARE BRACKET,REVERSE SOLIDUS
RIGHT SQUARE BRACKET,CIRCUMFLEX ACCENT,LOW LINE,GRAVE ACCENT,LATIN SMALL LETTER A,cB,cC,cD,cE,cF,cG,cH,cI,cJ,cK,cL
cM,cN,cO,cP,cQ,cR,cS,cT,cU,cV,cW,cX,cY,cZ,LEFT CURLY BRACKET,VERTICAL LINE,RIGHT CURLY BRACKET,TILDE
33NO-BREAK SPACE,INVERTED EXCLAMATION MARK,CENT SIGN,POUNDa,CURRENCYa,YENa,BROKEN BAR,SECTION SIGN,DIAERESIS
COPYRIGHT SIGN,FEMININE ORDINAL INDICATOR,LEFT-POINTING DOUBLE ANGLE QUOTATION MARK,NOT SIGN,SOFT HYPHEN
REGISTERED SIGN,MACRON,DEGREE SIGN,PLUS-MINUSa,SUPERSCRIPT TWO,aTHREE,ACUTE ACCENT,MICRO SIGN,PILCROWa,MIDDLE DOT
CEDILLA,SUPERSCRIPT ONE,MASCULINE ORDINAL INDICATOR,RIGHT-POINTING DOUBLE ANGLE QUOTATION MARK
VULGAR FRACTION ONE QUARTER,cHALF,bTHREE QUARTERS,INVERTED QUESTION MARK,LATIN CAPITAL LETTER A WITH GRAVE,eACUTE
eCIRCUMFLEX,eTILDE,eDIAERESIS,eRING ABOVE,cAE,cC WITH CEDILLA,cE WITH GRAVE,eACUTE,eCIRCUMFLEX,eDIAERESIS
cI WITH GRAVE,eACUTE,eCIRCUMFLEX,eDIAERESIS,cETH,cN WITH TILDE,cO WITH GRAVE,eACUTE,eCIRCUMFLEX,eTILDE,eDIAERESIS
MULTIPLICATION SIGN,LATIN CAPITAL LETTER O WITH STROKE,cU WITH GRAVE,eACUTE,eCIRCUMFLEX,eDIAERESIS,cY WITH ACUTE
cTHORN,aSMALL LETTER SHARP S,cA WITH GRAVE,eACUTE,eCIRCUMFLEX,eTILDE,eDIAERESIS,eRING ABOVE,cAE,cC WITH CEDILLA
cE WITH GRAVE,eACUTE,eCIRCUMFLEX,eDIAERESIS,cI WITH GRAVE,eACUTE,eCIRCUMFLEX,eDIAERESIS,cETH,cN WITH TILDE
cO WITH GRAVE,eACUTE,eCIRCUMFLEX,eTILDE,eDIAERESIS,DIVISION SIGN,LATIN SMALL LETTER O WITH STROKE,cU WITH GRAVE
eACUTE,eCIRCUMFLEX,eDIAERESIS,cY WITH ACUTE,cTHORN,cY WITH DIAERESIS,aCAPITAL LETTER A WITH MACRON,aSMALLd
aCAPITAL LETTER A WITH BREVE,aSMALLd,aCAPITAL LETTER A WITH OGONEK,aSMALLd,aCAPITAL LETTER C WITH ACUTE,aSMALLd
aCAPITAL LETTER C WITH CIRCUMFLEX,aSMALLd,aCAPITAL LETTER C WITH DOT ABOVE,aSMALLe,aCAPITAL LETTER C WITH CARON
aSMALLd,aCAPITAL LETTER Db,aSMALLd,aCAPITAL LETTER D WITH STROKE,aSMALLd,aCAPITAL LETTER E WITH MACRON,aSMALLd
aCAPITAL LETTER E WITH BREVE,aSMALLd,aCAPITAL LETTER E WITH DOT ABOVE,aSMALLe,aCAPITAL LETTER E WITH OGONEK,aSMALLd
aCAPITAL LETTER E WITH CARON,aSMALLd,aCAPITAL LETTER G WITH CIRCUMFLEX,aSMALLd,aCAPITAL LETTER G WITH BREVE,aSMALLd
aCAPITAL LETTER G WITH DOT ABOVE,aSMALLe,aCAPITAL LETTER G WITH CEDILLA,aSMALLd,aCAPITAL LETTER H WITH CIRCUMFLEX
aSMALLd,aCAPITAL LETTER H WITH STROKE,aSMALLd,aCAPITAL LETTER I WITH TILDE,aSMALLd,aCAPITAL LETTER I WITH MACRON
aSMALLd,aCAPITAL LETTER I WITH BREVE,aSMALLd,aCAPITAL LETTER I WITH OGONEK,aSMALLd,aCAPITAL LETTER I WITH DOT ABOVE
aSMALL LETTER DOTLESS I,aCAPITAL LIGATURE IJ,aSMALLb,aCAPITAL LETTER J WITH CIRCUMFLEX,aSMALLd
aCAPITAL LETTER K WITH CEDILLA,aSMALLd,cKRA,aCAPITAL LETTER L WITH ACUTE,aSMALLd,aCAPITAL LETTER L WITH CEDILLA
aSMALLd,aCAPITAL LETTER L WITH CARON,aSMALLd,aCAPITAL LETTER L WITH MIDDLE DOT,aSMALLe,aCAPITAL LETTER L WITH STROKE
aSMALLd,aCAPITAL LETTER N WITH ACUTE,aSMALLd,aCAPITAL LETTER N WITH CEDILLA,aSMALLd,aCAPITAL LETTER N WITH CARON
aSMALLd,dPRECEDED BY APOSTROPHE,aCAPITAL LETTER ENG,aSMALLb,aCAPITAL LETTER O WITH MACRON,aSMALLd
aCAPITAL LETTER O WITH BREVE,aSMALLd,aCAPITAL LETTER O WITH DOUBLE ACUTE,aSMALLe,aCAPITAL LIGATURE OE,aSMALLb
aCAPITAL LETTER R WITH ACUTE,aSMALLd,aCAPITAL LETTER R WITH CEDILLA,aSMALLd,aCAPITAL LETTER R WITH CARON,aSMALLd
aCAPITAL LETTER S WITH ACUTE,aSMALLd,aCAPITAL LETTER S WITH CIRCUMFLEX,aSMALLd,aCAPITAL LETTER S WITH CEDILLA
aSMALLd,aCAPITAL LETTER S WITH CARON,aSMALLd,aCAPITAL LETTER T WITH CEDILLA,aSMALLd,aCAPITAL LETTER T WITH CARON
aSMALLd,aCAPITAL LETTER T WITH STROKE,aSMALLd,aCAPITAL LETTER U WITH TILDE,aSMALLd,aCAPITAL LETTER U WITH MACRON
aSMALLd,aCAPITAL LETTER U WITH BREVE,aSMALLd,aCAPITAL LETTER U WITH RING ABOVE,aSMALLe
aCAPITAL LETTER U WITH DOUBLE ACUTE,aSMALLe,aCAPITAL LETTER U WITH OGONEK,aSMALLd,aCAPITAL LETTER W WITH CIRCUMFLEX
aSMALLd,aCAPITAL LETTER Yb,aSMALLd,aCAPITAL LETTER Y WITH DIAERESIS,cZ WITH ACUTE,aSMALLd
aCAPITAL LETTER Z WITH DOT ABOVE,aSMALLe,aCAPITAL LETTER Z WITH CARON,aSMALLd,cLONG S,cB WITH STROKE
aCAPITAL LETTER B WITH HOOK,eTOPBAR,aSMALLd,aCAPITAL LETTER TONE SIX,aSMALLc,aCAPITAL LETTER OPEN O,cC WITH HOOK
aSMALLd,aCAPITAL LETTER AFRICAN D,cD WITH HOOK,eTOPBAR,aSMALLd,cTURNED DELTA,aCAPITAL LETTER REVERSED E,cSCHWA
cOPEN E,cF WITH HOOK,aSMALLd,aCAPITAL LETTER Gb,cGAMMA,aSMALL LETTER HV,aCAPITAL LETTER IOTA,cI WITH STROKE
cK WITH HOOK,aSMALLd,cL WITH BAR,cLAMBDA WITH STROKE,aCAPITAL LETTER TURNED M,cN WITH LEFT HOOK
aSMALL LETTER N WITH LONG RIGHT LEG,aCAPITAL LETTER O WITH MIDDLE TILDE,eHORN,aSMALLd,aCAPITAL LETTER OI,aSMALLb
aCAPITAL LETTER P WITH HOOK,aSMALLd,aLETTER YR,aCAPITAL LETTER TONE TWO,aSMALLc,aCAPITAL LETTER ESH
aLETTER REVERSED ESH LOOP,aSMALL LETTER T WITH PALATAL HOOK,aCAPITAL LETTER T WITHa,aSMALLd
aCAPITAL LETTER T WITH RETROFLEXa,cU WITH HORN,aSMALLd,aCAPITAL LETTER UPSILON,cV WITH HOOK,cYb,aSMALLd
aCAPITAL LETTER Z WITH STROKE,aSMALLd,aCAPITAL LETTER EZH,dREVERSED,aSMALLc,dWITH TAIL,aLETTER TWO WITH STROKE
aCAPITAL LETTER TONE FIVE,aSMALLc,aLETTER INVERTED GLOTTAL STOP WITH STROKE,bWYNN,bDENTAL CLICK,bLATERALa,bALVEOLARa
bRETROFLEXa,aCAPITAL LETTER DZ WITH CARON,cD WITH SMALL LETTER Zb,aSMALL LETTER DZb,aCAPITAL LETTER LJ
cL WITH SMALL LETTER J,aSMALL LETTER LJ,aCAPITAL LETTER NJ,cN WITH SMALL LETTER J,aSMALL LETTER NJ
aCAPITAL LETTER A WITH CARON,aSMALLd,aCAPITAL LETTER Ib,aSMALLd,aCAPITAL LETTER Ob,aSMALLd,aCAPITAL LETTER Ub
aSMALLd,aCAPITAL LETTER U WITH DIAERESIS AND MACRON,aSMALLf,aCAPITAL LETTER U WITH DIAERESIS AND ACUTE,aSMALLf
aCAPITAL LETTER U WITH DIAERESIS AND CARON,aSMALLf,aCAPITAL LETTER U WITH DIAERESIS AND GRAVE,aSMALLf,cTURNED E
aCAPITAL LETTER A WITH DIAERESIS AND MACRON,aSMALLf,aCAPITAL LETTER A WITH DOT ABOVEb,aSMALLg
aCAPITAL LETTER AE WITHa,aSMALLd,aCAPITAL LETTER G WITH STROKE,aSMALLd,aCAPITAL LETTER G WITH CARON,aSMALLd
aCAPITAL LETTER Kb,aSMALLd,aCAPITAL LETTER O WITH OGONEK,aSMALLd,aCAPITAL LETTER O WITH OGONEK AND MACRON,aSMALLf
aCAPITAL LETTER EZH WITH CARON,aSMALLd,cJb,aCAPITAL LETTER DZ,cD WITH SMALL LETTER Z,aSMALL LETTER DZ
aCAPITAL LETTER G WITH ACUTE,aSMALLd,aCAPITAL LETTER HWAIR,cWYNN,cN WITH GRAVE,aSMALLd
aCAPITAL LETTER A WITH RING ABOVE AND ACUTE,aSMALLg,aCAPITAL LETTER AE WITHa,aSMALLd
aCAPITAL LETTER O WITH STROKE ANDa,aSMALLf,aCAPITAL LETTER A WITH DOUBLE GRAVE,aSMALLe
aCAPITAL LETTER A WITH INVERTED BREVE,aSMALLe,aCAPITAL LETTER E WITH DOUBLE GRAVE,aSMALLe
aCAPITAL LETTER E WITH INVERTED BREVE,aSMALLe,aCAPITAL LETTER I WITH DOUBLE GRAVE,aSMALLe
aCAPITAL LETTER I WITH INVERTED BREVE,aSMALLe,aCAPITAL LETTER O WITH DOUBLE GRAVE,aSMALLe
aCAPITAL LETTER O WITH INVERTED BREVE,aSMALLe,aCAPITAL LETTER R WITH DOUBLE GRAVE,aSMALLe
aCAPITAL LETTER R WITH INVERTED BREVE,aSMALLe,aCAPITAL LETTER U WITH DOUBLE GRAVE,aSMALLe
aCAPITAL LETTER U WITH INVERTED BREVE,aSMALLe,aCAPITAL LETTER S WITH COMMA BELOW,aSMALLe,aCAPITAL LETTER Tc,aSMALLe
aCAPITAL LETTER YOGH,aSMALLb,aCAPITAL LETTER H WITH CARON,aSMALLd,aCAPITAL LETTER N WITH LONG RIGHT LEG
aSMALL LETTER D WITH CURL,aCAPITAL LETTER OU,aSMALLb,aCAPITAL LETTER Z WITH HOOK,aSMALLd
aCAPITAL LETTER A WITH DOT ABOVE,aSMALLe,aCAPITAL LETTER E WITH CEDILLA,aSMALLd
aCAPITAL LETTER O WITH DIAERESIS AND MACRON,aSMALLf,aCAPITAL LETTER O WITH TILDEb,aSMALLf
aCAPITAL LETTER O WITH DOT ABOVE,aSMALLe,aCAPITAL LETTER O WITH DOT ABOVE AND MACRON,aSMALLg,aCAPITAL LETTER Y WITHa
aSMALLd,cL WITH CURL,cNb,cTb,cDOTLESS J,cDB DIGRAPH,cQPa,aCAPITAL LETTER A WITH STROKE,cCb,aSMALLd
aCAPITAL LETTER L WITH BAR,cT WITH DIAGONAL STROKE,aSMALL LETTER S WITH SWASH TAIL,cZc,aCAPITAL LETTER GLOTTAL STOP
aSMALLc,aCAPITAL LETTER B WITH STROKE,cU BAR,cTURNED V,cE WITH STROKE,aSMALLd,aCAPITAL LETTER Jb,aSMALLd
aCAPITAL LETTER SMALL Q WITH HOOK TAIL,aSMALL LETTERd,aCAPITAL LETTER R WITH STROKE,aSMALLd,aCAPITAL LETTER Yb
aSMALLd,cTURNED A,cALPHA,cTURNEDa,cB WITH HOOK,cOPEN O,cC WITH CURL,cD WITH TAIL,eHOOK,cREVERSED E,cSCHWA,dWITH HOOK
cOPEN E,cREVERSEDb,fWITH HOOK,cCLOSED REVERSED OPEN E,cDOTLESS J WITH STROKE,cG WITH HOOK,cSCRIPT G
aLETTER SMALL CAPITALa,aSMALL LETTER GAMMA,cRAMS HORN,cTURNED H,cH WITH HOOK,cHENGb,cI WITH STROKE,cIOTA
aLETTER SMALL CAPITAL I,aSMALL LETTER L WITH MIDDLE TILDE,eBELT,eRETROFLEX HOOK,cLEZH,cTURNED M,eWITH LONG LEG
cM WITH HOOK,cN WITH LEFTa,eRETROFLEXa,aLETTER SMALL CAPITAL N,aSMALL LETTER BARRED O,aLETTER SMALL CAPITAL OE
aSMALL LETTER CLOSED OMEGA,cPHI,cTURNED R,eWITH LONG LEG,fHOOK,cR WITH LONG LEG,eTAIL,eFISHHOOK,cREVERSEDc
aLETTER SMALL CAPITAL R,dINVERTEDa,aSMALL LETTER S WITH HOOK,cESH,cDOTLESS J WITH STROKE AND HOOK
cSQUAT REVERSED ESH,cESH WITH CURL,cTURNED T,cT WITH RETROFLEX HOOK,cU BAR,cUPSILON,cV WITH HOOK,cTURNED V,dW,dY
aLETTER SMALL CAPITALa,aSMALL LETTER Z WITH RETROFLEX HOOK,eCURL,cEZH,dWITH CURL,aLETTER GLOTTAL STOP
bPHARYNGEAL VOICED FRICATIVE,bINVERTED GLOTTAL STOP,bSTRETCHED C,bBILABIAL CLICK,bSMALL CAPITAL B
aSMALL LETTER CLOSED OPEN E,aLETTER SMALL CAPITAL G WITH HOOK,dH,aSMALL LETTER J WITH CROSSED-TAIL,cTURNED K
aLETTER SMALL CAPITAL L,aSMALL LETTER Q WITH HOOK,aLETTER GLOTTAL STOP WITH STROKE,bREVERSEDd
aSMALL LETTER DZ DIGRAPH,cDEZHa,cDZ DIGRAPH WITH CURL,cTS DIGRAPH,cTESHa,cTC DIGRAPH WITH CURL,cFENG DIGRAPH,cLSa
cLZa,aLETTER BILABIAL PERCUSSIVE,bBIDENTALa,aSMALL LETTER TURNED H WITH FISHHOOK,gAND TAIL,MODIFIER LETTER SMALL H
dWITH HOOK,cJ,cR,cTURNEDa,eWITH HOOK,cCAPITAL INVERTED R,cW,cY,bPRIME,bDOUBLEa,bTURNED COMMA,bAPOSTROPHE
bREVERSED COMMA,bRIGHT HALF RING,bLEFTb,bGLOTTAL STOP,bREVERSEDb,bLEFT ARROWHEAD,bRIGHTa,bUPa,bDOWNa
bCIRCUMFLEX ACCENT,CARON,MODIFIER LETTER VERTICAL LINE,bMACRON,bACUTE ACCENT,bGRAVEa,bLOW VERTICAL LINE,cMACRON
cGRAVE ACCENT,cACUTEa,bTRIANGULAR COLON,bHALFb,bCENTRED RIGHT HALF RING,cLEFTb,bUP TACK,bDOWNa,bPLUS SIGN,bMINUSa
BREVE,DOT ABOVE,RINGa,OGONEK,SMALL TILDE,DOUBLE ACUTE ACCENT,MODIFIER LETTER RHOTIC HOOK,bCROSS ACCENT,bSMALL GAMMA
cL,cS,cX,cREVERSED GLOTTAL STOP,bEXTRA-HIGH TONE BAR,bHIGHb,bMIDb,bLOWb,bEXTRA-LOWb,bYIN DEPARTING TONE MARK,bYANGc
bVOICING,bUNASPIRATED,bDOUBLE APOSTROPHE,bLOW DOWN ARROWHEAD,cUPa,cLEFTa,cRIGHTa,cRING,bMIDDLE GRAVE ACCENT,cDOUBLEb
dACUTEa,bLOW TILDE,bRAISED COLON,bBEGIN HIGH TONE,bENDb,bBEGIN LOWa,bENDb,bSHELF,bOPENa,bLOW LEFT ARROW
COMBINING GRAVE ACCENT,aACUTEa,aCIRCUMFLEXa,aTILDE,aMACRON,aOVERLINE,aBREVE,aDOT ABOVE,aDIAERESIS,aHOOK ABOVE,aRINGa
aDOUBLE ACUTE ACCENT,aCARON,aVERTICAL LINE ABOVE,aDOUBLEc,bGRAVE ACCENT,aCANDRABINDU,aINVERTED BREVE
aTURNED COMMA ABOVE,ab,aREVERSEDb,aCOMMA ABOVE RIGHT,aGRAVE ACCENT BELOW,aACUTEb,aLEFT TACKa,aRIGHTb
aLEFT ANGLE ABOVE,aHORN,aLEFT HALF RING BELOW,aUP TACKa,aDOWNb,aPLUS SIGNa,aMINUSb,aPALATALIZED HOOKa,aRETROFLEXb
aDOTa,aDIAERESISa,aRINGa,aCOMMAa,aCEDILLA,aOGONEK,aVERTICAL LINE BELOW,aBRIDGEa,aINVERTED DOUBLE ARCHa,aCARONa
aCIRCUMFLEX ACCENTa,aBREVEa,aINVERTEDb,aTILDEa,aMACRONa,aLOW LINE,aDOUBLEb,aTILDE OVERLAY,aSHORT STROKEa,aLONGb
aSHORT SOLIDUSa,aLONGb,aRIGHT HALF RING BELOW,aINVERTED BRIDGEa,aSQUAREa,aSEAGULLa,aX ABOVE,aVERTICAL TILDE
aDOUBLE OVERLINE,aGRAVE TONE MARK,aACUTEb,aGREEK PERISPOMENI,bKORONIS,bDIALYTIKA TONOS,bYPOGEGRAMMENI,aBRIDGE ABOVE
aEQUALS SIGN BELOW,aDOUBLE VERTICAL LINEa,aLEFT ANGLEa,aNOT TILDE ABOVE,aHOMOTHETICa,aALMOST EQUAL TOa
aLEFT RIGHT ARROW BELOW,aUPWARDSb,aGRAPHEME JOINER,aRIGHT ARROWHEAD ABOVE,aLEFT HALF RINGa,aFERMATA,aX BELOW
aLEFT ARROWHEADa,aRIGHTb,cAND UP ARROWHEADa,bHALF RING ABOVE,aDOT ABOVE RIGHT,aASTERISK BELOW,aDOUBLE RINGa
aZIGZAG ABOVE,aDOUBLE BREVE BELOW,c,bMACRON,cBELOW,bTILDE,bINVERTED BREVE,bRIGHTWARDS ARROW BELOW
aLATIN SMALL LETTER A,dE,dI,dO,dU,dC,dD,dH,dM,dR,dT,dV,dX,GREEK CAPITAL LETTER HETA,aSMALLb
aCAPITAL LETTER ARCHAIC SAMPI,aSMALLc,aNUMERAL SIGN,aLOWERb,aCAPITAL LETTER PAMPHYLIAN DIGAMMA,aSMALLc
2aYPOGEGRAMMENI,aSMALL REVERSED LUNATE SIGMA SYMBOL,bDOTTEDc,bREVERSEDd,aQUESTION MARK,aCAPITAL LETTER YOT,4aTONOS
aDIALYTIKAa,aCAPITAL LETTER ALPHA WITHa,aANO TELEIA,aCAPITAL LETTER EPSILON WITH TONOS,cETAb,cIOTAb,1cOMICRONb
1cUPSILONb,cOMEGAb,aSMALL LETTER IOTA WITH DIALYTIKA ANDa,aCAPITAL LETTER ALPHA,cBETA,cGAMMA,cDELTA,cEPSILON,cZETA
cETA,cTHETA,cIOTA,cKAPPA,cLAMDA,cMU,cNU,cXI,cOMICRON,cPI,cRHO,1cSIGMA,cTAU,cUPSILON,cPHI,cCHI,cPSI,cOMEGA
cIOTA WITH DIALYTIKA,cUPSILONb,aSMALL LETTER ALPHA WITH TONOS,cEPSILONb,cETAb,cIOTAb,cUPSILON WITH DIALYTIKA ANDa
cALPHA,cBETA,cGAMMA,cDELTA,cEPSILON,cZETA,cETA,cTHETA,cIOTA,cKAPPA,cLAMDA,cMU,cNU,cXI,cOMICRON,cPI,cRHO,cFINAL SIGMA
ca,cTAU,cUPSILON,cPHI,cCHI,cPSI,cOMEGA,cIOTA WITH DIALYTIKA,cUPSILONb,cOMICRON WITH TONOS,cUPSILONb,cOMEGAb
aCAPITAL KAI SYMBOL,aBETAa,aTHETAa,aUPSILON WITH HOOKa,cACUTE ANDb,cDIAERESISc,aPHIa,aPIa,aKAIa
aLETTER ARCHAIC KOPPA,aSMALLc,aLETTER STIGMA,aSMALLb,aLETTER DIGAMMA,aSMALLb,aLETTER KOPPA,aSMALLb,aLETTER SAMPI
aSMALLb,COPTIC CAPITAL LETTER SHEI,aSMALLb,aCAPITAL LETTER FEI,aSMALLb,aCAPITAL LETTER KHEI,aSMALLb
aCAPITAL LETTER HORI,aSMALLb,aCAPITAL LETTER GANGIA,aSMALLb,aCAPITAL LETTER SHIMA,aSMALLb,aCAPITAL LETTER DEI
aSMALLb,GREEK KAPPA SYMBOL,aRHOa,aLUNATE SIGMAa,aLETTER YOT,aCAPITAL THETA SYMBOL,aLUNATE EPSILONa,aREVERSEDc
aCAPITAL LETTER SHO,aSMALLb,aCAPITAL LUNATE SIGMA SYMBOL,bLETTER SAN,aSMALLb,aRHO WITH STROKE SYMBOL
aCAPITAL REVERSED LUNATE SIGMAa,bDOTTEDc,bREVERSEDd,CYRILLIC CAPITAL LETTER IE WITH GRAVE,cIO,cDJE,cGJE
cUKRAINIAN IE,cDZE,cBYELORUSSIAN-UKRAINIAN I,cYI,cJE,cLJE,cNJE,cTSHE,cKJE,cI WITH GRAVE,cSHORT U,cDZHE,cA,cBE,cVE
cGHE,cDE,cIE,cZHE,cZE,cI,cSHORTa,cKA,cEL,cEM,cEN,cO,cPE,cER,cES,cTE,cU,cEF,cHA,cTSE,cCHE,cSHA,cSHCHA,cHARD SIGN
cYERU,cSOFT SIGN,cE,cYU,cYA,aSMALL LETTER A,cBE,cVE,cGHE,cDE,cIE,cZHE,cZE,cI,cSHORTa,cKA,cEL,cEM,cEN,cO,cPE,cER,cES
cTE,cU,cEF,cHA,cTSE,cCHE,cSHA,cSHCHA,cHARD SIGN,cYERU,cSOFT SIGN,cE,cYU,cYA,cIE WITH GRAVE,cIO,cDJE,cGJE
cUKRAINIAN IE,cDZE,cBYELORUSSIAN-UKRAINIAN I,cYI,cJE,cLJE,cNJE,cTSHE,cKJE,cI WITH GRAVE,cSHORT U,cDZHE
aCAPITAL LETTER OMEGA,aSMALLb,aCAPITAL LETTER YAT,aSMALLb,aCAPITAL LETTER IOTIFIED E,aSMALLc
aCAPITAL LETTER LITTLE YUS,aSMALLc,aCAPITAL LETTER IOTIFIEDb,aSMALLd,aCAPITAL LETTER BIGa,aSMALLc
aCAPITAL LETTER IOTIFIEDb,aSMALLd,aCAPITAL LETTER KSI,aSMALLb,aCAPITAL LETTER PSI,aSMALLb,aCAPITAL LETTER FITA
aSMALLb,aCAPITAL LETTER IZHITSA,aSMALLb,aCAPITAL LETTER IZHITSA WITH DOUBLE GRAVE ACCENT,aSMALLf,aCAPITAL LETTER UK
aSMALLb,aCAPITAL LETTER ROUND OMEGA,aSMALLc,aCAPITAL LETTER OMEGA WITH TITLO,aSMALLd,aCAPITAL LETTER OT,aSMALLb
aCAPITAL LETTER KOPPA,aSMALLb,aTHOUSANDS SIGN,COMBINING CYRILLIC TITLO,bPALATALIZATION,bDASIA PNEUMATA,bPSILIa
bPOKRYTIE,bHUNDRED THOUSANDS SIGN,bMILLIONSa,CYRILLIC CAPITAL LETTER SHORT I WITH TAIL,aSMALLe
aCAPITAL LETTER SEMISOFT SIGN,aSMALLc,aCAPITAL LETTER ER WITH TICK,aSMALLd,aCAPITAL LETTER GHE WITH UPTURN,aSMALLd
aCAPITAL LETTER GHE WITH STROKE,aSMALLd,aCAPITAL LETTER GHE WITH MIDDLE HOOK,aSMALLe
aCAPITAL LETTER ZHE WITH DESCENDER,aSMALLd,aCAPITAL LETTER ZEb,aSMALLd,aCAPITAL LETTER KAb,aSMALLd
aCAPITAL LETTER KA WITH VERTICAL STROKE,aSMALLe,aCAPITAL LETTER KA WITHa,aSMALLd,aCAPITAL LETTER BASHKIR KA,aSMALLc
aCAPITAL LETTER EN WITH DESCENDER,aSMALLd,aCAPITAL LIGATURE EN GHE,aSMALLc,aCAPITAL LETTER PE WITH MIDDLE HOOK
aSMALLe,aCAPITAL LETTER ABKHASIAN HA,aSMALLc,aCAPITAL LETTER ES WITH DESCENDER,aSMALLd,aCAPITAL LETTER TEb,aSMALLd
aCAPITAL LETTER STRAIGHT U,aSMALLc,aCAPITAL LETTER STRAIGHT U WITH STROKE,aSMALLe,aCAPITAL LETTER HA WITH DESCENDER
aSMALLd,aCAPITAL LIGATURE TE TSE,aSMALLc,aCAPITAL LETTER CHE WITH DESCENDER,aSMALLd
aCAPITAL LETTER CHE WITH VERTICAL STROKE,aSMALLe,aCAPITAL LETTER SHHA,aSMALLb,aCAPITAL LETTER ABKHASIAN CHE,aSMALLc
aCAPITAL LETTER ABKHASIAN CHE WITH DESCENDER,aSMALLe,aLETTER PALOCHKA,aCAPITAL LETTER ZHE WITH BREVE,aSMALLd
aCAPITAL LETTER KA WITH HOOK,aSMALLd,aCAPITAL LETTER EL WITH TAIL,aSMALLd,aCAPITAL LETTER EN WITH HOOK,aSMALLd
aCAPITAL LETTER EN WITH TAIL,aSMALLd,aCAPITAL LETTER KHAKASSIAN CHE,aSMALLc,aCAPITAL LETTER EM WITH TAIL,aSMALLd
cPALOCHKA,aCAPITAL LETTER A WITH BREVE,aSMALLd,aCAPITAL LETTER A WITH DIAERESIS,aSMALLd,aCAPITAL LIGATURE A IE
aSMALLc,aCAPITAL LETTER IE WITH BREVE,aSMALLd,aCAPITAL LETTER SCHWA,aSMALLb,aCAPITAL LETTER SCHWA WITH DIAERESIS
aSMALLd,aCAPITAL LETTER ZHEb,aSMALLd,aCAPITAL LETTER ZEb,aSMALLd,aCAPITAL LETTER ABKHASIAN DZE,aSMALLc
aCAPITAL LETTER I WITH MACRON,aSMALLd,aCAPITAL LETTER I WITH DIAERESIS,aSMALLd,aCAPITAL LETTER Ob,aSMALLd
aCAPITAL LETTER BARRED O,aSMALLc,aCAPITAL LETTER BARRED O WITH DIAERESIS,aSMALLe,aCAPITAL LETTER Eb,aSMALLd
aCAPITAL LETTER U WITH MACRON,aSMALLd,aCAPITAL LETTER U WITH DIAERESIS,aSMALLd,aCAPITAL LETTER U WITH DOUBLE ACUTE
aSMALLe,aCAPITAL LETTER CHE WITH DIAERESIS,aSMALLd,aCAPITAL LETTER GHE WITH DESCENDER,aSMALLd
aCAPITAL LETTER YERU WITH DIAERESIS,aSMALLd,aCAPITAL LETTER GHE WITH STROKE AND HOOK,aSMALLf
aCAPITAL LETTER HA WITHa,aSMALLd,aCAPITAL LETTER HA WITH STROKE,aSMALLd,aCAPITAL LETTER KOMI DE,aSMALLc
aCAPITAL LETTER KOMI DJE,aSMALLc,aCAPITAL LETTER KOMI ZJE,aSMALLc,aCAPITAL LETTER KOMI DZJE,aSMALLc
aCAPITAL LETTER KOMI LJE,aSMALLc,aCAPITAL LETTER KOMI NJE,aSMALLc,aCAPITAL LETTER KOMI SJE,aSMALLc
aCAPITAL LETTER KOMI TJE,aSMALLc,aCAPITAL LETTER REVERSED ZE,aSMALLc,aCAPITAL LETTER EL WITH HOOK,aSMALLd
aCAPITAL LETTER LHA,aSMALLb,aCAPITAL LETTER RHA,aSMALLb,aCAPITAL LETTER YAE,aSMALLb,aCAPITAL LETTER QA,aSMALLb
aCAPITAL LETTER WE,aSMALLb,aCAPITAL LETTER ALEUT KA,aSMALLc,aCAPITAL LETTER EL WITH MIDDLE HOOK,aSMALLe
aCAPITAL LETTER ENc,aSMALLe,aCAPITAL LETTER PE WITH DESCENDER,aSMALLd,aCAPITAL LETTER SHHAb,aSMALLd
aCAPITAL LETTER EN WITH LEFT HOOK,aSMALLe,aCAPITAL LETTER DZZHE,aSMALLb,aCAPITAL LETTER DCHE,aSMALLb
aCAPITAL LETTER EL WITH DESCENDER,aSMALLd,1ARMENIAN CAPITAL LETTER AYB,cBEN,cGIM,cDA,cECH,cZA,cEH,cET,cTO,cZHE,cINI
cLIWN,cXEH,cCA,cKEN,cHO,cJA,cGHAD,cCHEH,cMEN,cYI,cNOW,cSHA,cVO,cCHA,cPEH,cJHEH,cRA,cSEH,cVEW,cTIWN,cREH,cCO,cYIWN
cPIWR,cKEH,cOH,cFEH,2aMODIFIER LETTER LEFT HALF RING,aAPOSTROPHE,aEMPHASIS MARK,aEXCLAMATIONa,aCOMMA,aQUESTION MARK
aABBREVIATIONa,aSMALL LETTER TURNED AYB,ca,cBEN,cGIM,cDA,cECH,cZA,cEH,cET,cTO,cZHE,cINI,cLIWN,cXEH,cCA,cKEN,cHO,cJA
cGHAD,cCHEH,cMEN,cYI,cNOW,cSHA,cVO,cCHA,cPEH,cJHEH,cRA,cSEH,cVEW,cTIWN,cREH,cCO,cYIWN,cPIWR,cKEH,cOH,cFEH
bLIGATURE ECH YIWN,bLETTER YI WITH STROKE,aFULL STOP,aHYPHEN,2RIGHT-FACING ARMENIAN ETERNITY SIGN,LEFT-FACINGc
ARMENIAN DRAMa,1HEBREW ACCENT ETNAHTA,bSEGOL,bSHALSHELET,bZAQEF QATAN,cGADOL,bTIPEHA,bREVIA,bZARQA,bPASHTA,bYETIV
bTEVIR,bGERESH,cMUQDAM,bGERSHAYIM,bQARNEY PARA,bTELISHA GEDOLA,bPAZER,bATNAH HAFUKH,bMUNAH,bMAHAPAKH,bMERKHA,cKEFULA
bDARGA,bQADMA,bTELISHA QETANA,bYERAH BEN YOMO,bOLE,bILUY,bDEHI,bZINOR,aMARK MASORA CIRCLE,aPOINT SHEVA,bHATAF SEGOL
cPATAH,cQAMATS,bHIRIQ,bTSERE,bSEGOL,bPATAH,bQAMATS,bHOLAM,cHASER FOR VAV,bQUBUTS,bDAGESH OR MAPIQ,bMETEG
aPUNCTUATION MAQAF,aPOINT RAFE,aPUNCTUATION PASEQ,aPOINT SHIN DOT,bSINa,aPUNCTUATION SOF PASUQ,aMARK UPPER DOT
bLOWERa,aPUNCTUATION NUN HAFUKHA,aPOINT QAMATS QATAN,8aLETTER ALEF,bBET,bGIMEL,bDALET,bHE,bVAV,bZAYIN,bHET,bTET,bYOD
bFINAL KAF,ba,bLAMED,bFINAL MEM,ba,bFINAL NUN,ba,bSAMEKH,bAYIN,bFINAL PE,ba,bFINAL TSADI,ba,bQOF,bRESH,bSHIN,bTAV
4aYOD TRIANGLE,aLIGATURE YIDDISH DOUBLE VAV,cVAV YOD,cDOUBLEa,aPUNCTUATION GERESH,bGERSHAYIM,11ARABIC NUMBER SIGN
aSIGN SANAH,aFOOTNOTE MARKER,aSIGN SAFHA,bSAMVAT,aNUMBER MARK ABOVE,ARABIC-INDIC CUBE ROOT,aFOURTHa,ARABIC RAY
ARABIC-INDIC PER MILLE SIGN,bTEN THOUSANDa,AFGHANIa,ARABIC COMMA,aDATE SEPARATOR,aPOETIC VERSE SIGN,aSIGN MISRA
bSALLALLAHOU ALAYHE WASSALLAM,bALAYHE ASSALLAM,bRAHMATULLAH ALAYHE,bRADI ALLAHOU ANHU,bTAKHALLUS,aSMALL HIGH TAH
cLIGATURE ALEF WITH LAM WITH YEH,cZAIN,bFATHA,bDAMMA,bKASRA,aSEMICOLON,aLETTER MARK,aEND OF TEXTa
aTRIPLE DOT PUNCTUATIONa,aQUESTIONa,aLETTER KASHMIRI YEH,bHAMZA,bALEF WITH MADDA ABOVE,dHAMZAa,bWAWc
bALEF WITH HAMZA BELOW,bYEH WITH HAMZA ABOVE,bALEF,bBEH,bTEH MARBUTA,c,bTHEH,bJEEM,bHAH,bKHAH,bDAL,bTHAL,bREH,bZAIN
bSEEN,bSHEEN,bSAD,bDAD,bTAH,bZAH,bAIN,bGHAIN,bKEHEH WITH TWO DOTS ABOVE,dTHREE DOTS BELOW,bFARSI YEH WITH INVERTED V
eTWO DOTS ABOVE,eTHREEb,aTATWEEL,aLETTER FEH,bQAF,bKAF,bLAM,bMEEM,bNOON,bHEH,bWAW,bALEF MAKSURA,bYEH,aFATHATAN
aDAMMATAN,aKASRATAN,aFATHA,aDAMMA,aKASRA,aSHADDA,aSUKUN,aMADDAH ABOVE,aHAMZAa,bBELOW,aSUBSCRIPT ALEF,aINVERTED DAMMA
aMARK NOON GHUNNA,aZWARAKAY,aVOWEL SIGN SMALL V ABOVE,cINVERTEDc,cDOT BELOW,aREVERSED DAMMA,aFATHA WITH TWO DOTS
aWAVY HAMZA BELOW,ARABIC-INDIC DIGIT ZERO,bONE,bTWO,bTHREE,bFOUR,bFIVE,bSIX,bSEVEN,bEIGHT,bNINE,ARABIC PERCENT SIGN
aDECIMAL SEPARATOR,aTHOUSANDSa,aFIVE POINTED STAR,aLETTER DOTLESS BEH,cQAF,bSUPERSCRIPT ALEF,bALEF WASLA
cWITH WAVY HAMZA ABOVE,fBELOW,bHIGH HAMZA,dALEF,dWAW,bU WITH HAMZA ABOVE,bHIGH HAMZA YEH,bTTEH,bTTEHEH,bBEEH
bTEH WITH RING,dTHREE DOTS ABOVE DOWNWARDS,bPEH,bTEHEH,bBEHEH,bHAH WITH HAMZA ABOVE,dTWO DOTS VERTICALa,bNYEH,bDYEH
bHAH WITH THREE DOTS ABOVE,bTCHEH,bTCHEHEH,bDDAL,bDAL WITH RING,dDOT BELOW,fAND SMALL TAH,bDAHAL,bDDAHAL,bDUL
bDAL WITH THREE DOTS ABOVE DOWNWARDS,dFOUR DOTS ABOVE,bRREH,bREH WITH SMALL V,dRING,dDOT BELOW,dSMALL Va
dDOT BELOW AND DOT ABOVE,dTWO DOTSa,bJEH,bREH WITH FOUR DOTS ABOVE,bSEEN WITH DOT BELOW AND DOTa,dTHREE DOTS BELOW
gAND THREE DOTS ABOVE,bSAD WITH TWO DOTS BELOW,dTHREE DOTS ABOVE,bTAHd,bAINd,bDOTLESS FEH,bFEH WITH DOT MOVED BELOW
ea,bVEH,bFEH WITH THREE DOTS BELOW,bPEHEH,bQAF WITH DOT ABOVE,dTHREE DOTSa,bKEHEH,bSWASH KAF,bKAF WITH RING
dDOT ABOVE,bNG,bKAF WITH THREE DOTS BELOW,bGAF,cWITH RING,bNGOEH,bGAF WITH TWO DOTS BELOW,bGUEH
bGAF WITH THREE DOTS ABOVE,bLAM WITH SMALL V,dDOT ABOVE,dTHREE DOTSa,fBELOW,bNOON WITH DOTa,cGHUNNA,bRNOON
bNOON WITH RING,dTHREE DOTS ABOVE,bHEH DOACHASHMEE,bTCHEH WITH DOT ABOVE,bHEH WITH YEHa,cGOAL,dWITH HAMZA ABOVE
bTEH MARBUTA GOAL,bWAW WITH RING,bKIRGHIZ OE,ba,bU,bYU,bKIRGHIZa,bWAW WITH TWO DOTS ABOVE,bVE,bFARSI YEH
bYEH WITH TAIL,dSMALL V,bWAW WITH DOT ABOVE,bE,bYEH WITH THREE DOTS BELOW,cBARREE,dWITH HAMZA ABOVE,aFULL STOP
aLETTER AE,aSMALL HIGH LIGATURE SAD WITH LAM WITH ALEF MAKSURA,dQAFe,cMEEM INITIAL FORM,cLAM ALEF,cJEEM,cTHREE DOTS
cSEEN,aEND OF AYAH,aSTART OF RUB EL HIZB,aSMALL HIGH ROUNDED ZERO,cUPRIGHT RECTANGULARa,cDOTLESS HEAD OF KHAH
cMEEM ISOLATED FORM,bLOW SEEN,bHIGH MADDA,bWAW,bYEH,bHIGHa,cNOON,aPLACE OF SAJDAH,aEMPTY CENTRE LOW STOP,cHIGHa
aROUNDED HIGH STOP WITH FILLED CENTRE,aSMALL LOW MEEM,aLETTER DAL WITH INVERTED V,bREHc
EXTENDED ARABIC-INDIC DIGIT ZERO,cONE,cTWO,cTHREE,cFOUR,cFIVE,cSIX,cSEVEN,cEIGHT,cNINE
ARABIC LETTER SHEEN WITH DOT BELOW,bDADc,bGHAINc,aSIGN SINDHI AMPERSAND,cPOSTPOSITION MEN
aLETTER HEH WITH INVERTED V,SYRIAC END OF PARAGRAPH,aSUPRALINEAR FULL STOP,aSUBLINEARb,aSUPRALINEAR COLON
aSUBLINEARa,aHORIZONTALa,aCOLON SKEWED LEFT,cRIGHT,aSUPRALINEAR COLON SKEWED LEFT,aSUBLINEAR COLON SKEWED RIGHT
aCONTRACTION,aHARKLEAN OBELUS,bMETOBELUS,bASTERISCUS,1aABBREVIATION MARK,aLETTER ALAPH,bSUPERSCRIPTa,bBETH,bGAMAL
cGARSHUNI,bDALATH,bDOTLESS DALATH RISH,bHE,bWAW,bZAIN,bHETH,bTETH,cGARSHUNI,bYUDH,cHE,bKAPH,bLAMADH,bMIM,bNUN
bSEMKATH,bFINALa,bE,bPE,bREVERSEDa,bSADHE,bQAPH,bRISH,bSHIN,bTAW,bPERSIAN BHETH,cGHAMAL,cDHALATH,aPTHAHA ABOVE
bBELOW,bDOTTED,aZQAPHA ABOVE,bBELOW,bDOTTED,aRBASA ABOVE,bBELOW,aDOTTED ZLAMA HORIZONTAL,cANGULAR,aHBASA ABOVE
bBELOW,aHBASA-ESASA DOTTED,aESASA ABOVE,bBELOW,aRWAHA,aFEMININE DOT,aQUSHSHAYA,aRUKKAKHA,aTWO VERTICAL DOTS ABOVE
dBELOW,aTHREE DOTS ABOVE,cBELOW,aOBLIQUE LINE ABOVE,cBELOW,aMUSIC,aBARREKH,2aLETTER SOGDIAN ZHAIN,cKHAPH,cFE
ARABIC LETTER BEH WITH THREE DOTS HORIZONTALLY BELOW,dDOT BELOW AND THREE DOTS ABOVE
dTHREE DOTS POINTING UPWARDS BELOW,iAND TWO DOTS ABOVE,dTWO DOTS BELOW AND DOTa,dINVERTED SMALL V BELOW,dSMALL V
bHAH WITH TWO DOTS ABOVE,dTHREE DOTS POINTING UPWARDS BELOW,bDAL WITH TWO DOTS VERTICALLY BELOW AND SMALL TAH
dINVERTED SMALL V BELOW,bREH WITH STROKE,bSEEN WITH FOUR DOTS ABOVE,bAIN WITH TWOb,dTHREE DOTS POINTING DOWNWARDSa
dTWO DOTS VERTICALLYa,bFEH WITH TWO DOTS BELOW,dTHREE DOTS POINTING UPWARDSa,bKEHEH WITH DOT ABOVE,dTHREE DOTSa
fPOINTING UPWARDS BELOW,bMEEM WITH DOT ABOVE,eBELOW,bNOON WITH TWO DOTSa,dSMALL TAH,eV,bLAM WITH BAR
bREH WITH TWO DOTS VERTICALLY ABOVE,dHAMZAa,bSEEN WITH TWO DOTS VERTICALLYa,bHAH WITH SMALL ARABIC LETTER TAH BELOW
hAND TWO DOTS,bSEENh,bREHh,bHAH WITH SMALL ARABIC LETTER TAH ABOVE,bALEF WITH EXTENDED ARABIC-INDIC DIGIT TWOa
gTHREEa,bFARSI YEH WITH EXTENDED ARABIC-INDIC DIGIT TWOa,hTHREEa,hFOUR BELOW
bWAW WITH EXTENDED ARABIC-INDIC DIGIT TWO ABOVE,gTHREEa,bYEH BARREE WITH EXTENDED ARABIC-INDIC DIGIT TWOa,hTHREEa
bHAH WITH EXTENDED ARABIC-INDIC DIGIT FOUR BELOW,bSEEN WITH EXTENDED ARABIC-INDIC DIGIT FOUR ABOVE,dINVERTED V
bKAF WITH TWO DOTS ABOVE,THAANA LETTER HAA,bSHAVIYANI,bNOONU,bRAA,bBAA,bLHAVIYANI,bKAAFU,bALIFU,bVAAVU,bMEEMU,bFAAFU
bDHAALU,bTHAA,bLAAMU,bGAAFU,bGNAVIYANI,bSEENU,bDAVIYANI,bZAVIYANI,bTAVIYANI,bYAA,bPAVIYANI,bJAVIYANI,bCHAVIYANI
bTTAA,bHHAA,bKHAA,bTHAALU,bZAA,bSHEENU,bSAADHU,bDAADHU,bTO,bZO,bAINU,bGHAINU,bQAAFU,bWAAVU,aABAFILI,aAABAAFILI
aIBIFILI,aEEBEEFILI,aUBUFILI,aOOBOOFILI,aEBEFILI,aEYBEYFILI,aOBOFILI,aOABOAFILI,aSUKUN,aLETTER NAA,14NKO DIGIT ZERO
bONE,bTWO,bTHREE,bFOUR,bFIVE,bSIX,bSEVEN,bEIGHT,bNINE,aLETTER A,bEE,bI,bE,bU,bOO,bO,bDAGBASINNA,bN,bBA,bPA,bTA,bJA
bCHA,bDA,bRA,bRRA,bSA,bGBA,bFA,bKA,bLA,bNA WOLOSO,bMA,bNYA,bNA,bHA,bWA,bYA,bNYA WOLOSO,bJONA JA,cCHA,cRA
aCOMBINING SHORT HIGH TONE,cLOWa,cRISINGa,bLONG DESCENDINGa,cHIGHa,cLOWa,cRISINGa,bNASALIZATION MARK
bDOUBLE DOT ABOVE,aHIGH TONE APOSTROPHE,aLOWb,aSYMBOL OO DENNEN,bGBAKURUNEN,aCOMMA,aEXCLAMATION MARK,aLAJANYALAN
2aDANTAYALAN,aDOROME SIGN,aTAMANa,SAMARITAN LETTER ALAF,bBIT,bGAMAN,bDALAT,bIY,bBAA,bZEN,bIT,bTIT,bYUT,bKAAF,bLABAT
bMIM,bNUN,bSINGAAT,bIN,bFI,bTSAADIY,bQUF,bRISH,bSHAN,bTAAF,aMARK IN,bIN-ALAF,bOCCLUSION,bDAGESH
aMODIFIER LETTER EPENTHETIC YUT,aMARKb,aVOWEL SIGN LONG E,ca,cOVERLONG AA,cLONGa,ca,cOVERLONG A,cLONGa,ca
aMODIFIER LETTER SHORTa,aVOWEL SIGNb,cLONG U,ca,aMODIFIER LETTER I,aVOWEL SIGN LONGa,ca,cO,cSUKUN,aMARK NEQUDAA
2aPUNCTUATIONa,bAFSAAQ,bANGED,bBAU,bATMAAU,bSHIYYAALAA,aABBREVIATION MARK,aPUNCTUATION MELODIC QITSA,bZIQAA,bQITSA
bZAEF,bTURU,bARKAANU,bSOF MASHFAAT,bANNAAU,1MANDAIC LETTER HALQA,bAB,bAG,bAD,bAH,bUSHENNA,bAZ,bIT,bATT,bAKSA,bAK,bAL
bAM,bAN,bAS,bIN,bAP,bASZ,bAQ,bAR,bASH,bAT,bDUSHENNA,bKAD,bAIN,aAFFRICATION MARK,aVOCALIZATIONa,aGEMINATIONa
2aPUNCTUATION,1SYRIAC LETTER MALAYALAM NGA,cJA,cNYA,cTTA,cNNA,cNNNA,cBHA,cRA,cLLA,cLLLA,cSSA
5ARABIC LETTER ALEF WITH ATTACHED FATHA,eTOP RIGHTa,dRIGHT MIDDLE STROKE,dLEFTb,dATTACHED KASRA,eBOTTOM RIGHTa
eROUND DOT ABOVE,eRIGHT ROUND DOT,eLEFTb,eROUND DOT BELOW,dDOT ABOVE,dATTACHED TOP RIGHT FATHA ANDb
dRIGHT MIDDLE STROKEc,dATTACHED BOTTOM RIGHT KASRAc,eTOP RIGHT FATHA AND LEFT RING,dRIGHT MIDDLE STROKEc
dATTACHED BOTTOM RIGHT KASRAc,eRIGHT HAMZA,eLEFTa,aTATWEEL WITH OVERSTRUCKa,dWAW,cTWO DOTS BELOW,aLETTER THIN YEH
aBASELINE ROUND DOT,aRAISEDb,aLETTER NOON WITH INVERTED SMALL V,bHAH WITH INVERTED SMALL V BELOW,bTAH WITH DOTa
dTHREE DOTSa,bKEHEH WITH TWO DOTS VERTICALLYa,aVERTICAL TAIL,1aPOUND MARK ABOVE,aPIASTREb,6aSMALL HIGH WORD AL-JUZ
bLOW WORD ISHMAAM,dIMAALA,dTASHEEL,aMADDA WAAJIB,aSUPERSCRIPT ALEF MOKHASSAS,aDOUBLED MADDA,aHALF MADDA OVERa
aLETTER BEH WITH SMALL V BELOW,dHAMZA ABOVE,bJEEM WITH TWO DOTSa,bTAHd,bFEH WITH DOT BELOW AND THREEb
bQAF WITH DOT BELOW,bLAM WITH DOUBLE BAR,bMEEM WITH THREE DOTS ABOVE,bYEH WITH TWO DOTS BELOW AND HAMZAa,hDOTa
bREH WITH LOOP,bWAW WITH DOT WITHIN,bROHINGYA YEH,bLOW ALEF,bDAL WITH THREE DOTS BELOW,bSADd
bGAF WITH INVERTED STROKE,bSTRAIGHT WAW,bZAIN WITH INVERTED V ABOVE,bAIN WITH THREE DOTS BELOW,bKAF WITH DOTa
bQAF WITH DOT BELOW AND NO DOTS ABOVE,bBEH WITH SMALL MEEMa,bPEHd,bTEH WITH SMALL TEHa,bREH WITH SMALL NOONa
bYEH WITH TWO DOTS BELOW ANDc,bAFRICAN FEH,cQAF,cNOON,bPEH WITH SMALL V,bTEHc,bTTEHc,bTCHEHc,bKEHEHc
bGHAIN WITH THREE DOTS ABOVE,bAFRICAN QAFd,bJEEMd,fBELOW,bLAM WITH SMALL ARABIC LETTER TAH ABOVE,bGRAF
aSMALL FARSI YEH,bHIGHb,cYEH BARREE WITH TWO DOTS BELOW,cWORD SAH,cZAH,aLARGE ROUND DOT ABOVE,dBELOW,aSUKUNa
aLARGE CIRCLEa,bROUND DOT INSIDEb,aSMALL LOW WAW,bHIGH WORD AR-RUB,cSAD,cAIN,cQAF,cNOON WITH KASRA,bLOWc
bHIGH WORD ATH-THALATHA,dAS-SAJDA,dAN-NISF,dSAKTA,dQIF,dWAQFA,cFOOTNOTE MARKER,cSIGN SAFHA,aDISPUTED END OF AYAH
aTURNED DAMMA BELOW,aCURLY FATHA,bDAMMA,bKASRA,bFATHATAN,bDAMMATAN,bKASRATAN,aTONE ONE DOT ABOVE,bTWO DOTSa,bLOOPa
bONE DOT BELOW,bTWO DOTSa,bLOOPa,aOPEN FATHATAN,bDAMMATAN,bKASRATAN,aSMALL HIGH WAW,aFATHA WITH RING,cDOT ABOVE
aKASRA WITH DOT BELOW,aLEFT ARROWHEAD ABOVE,aRIGHTb,aLEFT ARROWHEAD BELOW,aRIGHTb,aDOUBLE RIGHT ARROWHEAD ABOVE
eWITH DOT,ae,aDAMMAb,aMARK SIDEWAYS NOON GHUNNA,DEVANAGARI SIGN INVERTED CANDRABINDU,ba,bANUSVARA,bVISARGA
aLETTER SHORT A,ba,bAA,bI,bII,bU,bUU,bVOCALIC R,cL,bCANDRA E,bSHORTa,ba,bAI,bCANDRA O,bSHORTa,ba,bAU,bKA,bKHA,bGA
bGHA,bNGA,bCA,bCHA,bJA,bJHA,bNYA,bTTA,bTTHA,bDDA,bDDHA,bNNA,bTA,bTHA,bDA,bDHA,bNA,bNNNA,bPA,bPHA,bBA,bBHA,bMA,bYA
bRA,bRRA,bLA,bLLA,bLLLA,bVA,bSHA,bSSA,bSA,bHA,aVOWEL SIGN OE,cOOE,aSIGN NUKTA,bAVAGRAHA,aVOWEL SIGN AA,cI,cII,cU,cUU
cVOCALIC R,dRR,cCANDRA E,cSHORTa,ca,cAI,cCANDRA O,cSHORTa,ca,cAU,aSIGN VIRAMA,aVOWEL SIGN PRISHTHAMATRA E,cAW,aOM
aSTRESS SIGN UDATTA,cANUDATTA,aGRAVE ACCENT,aACUTEa,aVOWEL SIGN CANDRA LONG E,cUE,cUUE,aLETTER QA,bKHHA,bGHHA,bZA
bDDDHA,bRHA,bFA,bYYA,bVOCALIC RR,cLL,aVOWEL SIGN VOCALIC L,dLL,aDANDA,aDOUBLEa,aDIGIT ZERO,bONE,bTWO,bTHREE,bFOUR
bFIVE,bSIX,bSEVEN,bEIGHT,bNINE,aABBREVIATION SIGN,aSIGN HIGH SPACING DOT,aLETTER CANDRA A,bOE,bOOE,bAW,bUE,bUUE
bMARWARI DDA,bZHA,bHEAVY YA,bGGA,bJJA,bGLOTTAL STOP,bDDDA,bBBA,BENGALI ANJI,aSIGN CANDRABINDU,bANUSVARA,bVISARGA
1aLETTER A,bAA,bI,bII,bU,bUU,bVOCALIC R,cL,2bE,bAI,2bO,bAU,bKA,bKHA,bGA,bGHA,bNGA,bCA,bCHA,bJA,bJHA,bNYA,bTTA,bTTHA
bDDA,bDDHA,bNNA,bTA,bTHA,bDA,bDHA,bNA,1bPA,bPHA,bBA,bBHA,bMA,bYA,bRA,1bLA,3bSHA,bSSA,bSA,bHA,2aSIGN NUKTA,bAVAGRAHA
aVOWEL SIGN AA,cI,cII,cU,cUU,cVOCALIC R,dRR,2cE,cAI,2cO,cAU,aSIGN VIRAMA,aLETTER KHANDA TA,8aAU LENGTH MARK
4aLETTER RRA,bRHA,1bYYA,bVOCALIC RR,cLL,aVOWEL SIGN VOCALIC L,dLL,2aDIGIT ZERO,bONE,bTWO,bTHREE,bFOUR,bFIVE,bSIX
bSEVEN,bEIGHT,bNINE,aLETTER RA WITH MIDDLE DIAGONAL,dLOWERa,aRUPEE MARK,bSIGN,aCURRENCY NUMERATOR ONE,cTWO,cTHREE
cFOUR,cONE LESS THAN THE DENOMINATOR,bDENOMINATOR SIXTEEN,aISSHAR,aGANDA MARK,aLETTER VEDIC ANUSVARA
aABBREVIATION SIGN,aSANDHI MARK,2GURMUKHI SIGN ADAK BINDI,ba,bVISARGA,1aLETTER A,bAA,bI,bII,bU,bUU,4bEE,bAI,2bOO,bAU
bKA,bKHA,bGA,bGHA,bNGA,bCA,bCHA,bJA,bJHA,bNYA,bTTA,bTTHA,bDDA,bDDHA,bNNA,bTA,bTHA,bDA,bDHA,bNA,1bPA,bPHA,bBA,bBHA
bMA,bYA,bRA,1bLA,bLLA,1bVA,bSHA,1bSA,bHA,2aSIGN NUKTA,1aVOWEL SIGN AA,cI,cII,cU,cUU,4cEE,cAI,2cOO,cAU,aSIGN VIRAMA
3bUDAAT,7aLETTER KHHA,bGHHA,bZA,bRRA,1bFA,7aDIGIT ZERO,bONE,bTWO,bTHREE,bFOUR,bFIVE,bSIX,bSEVEN,bEIGHT,bNINE,aTIPPI
aADDAK,aIRI,aURA,aEK ONKAR,aSIGN YAKASH,aABBREVIATION SIGN,10GUJARATI SIGN CANDRABINDU,bANUSVARA,bVISARGA,1aLETTER A
bAA,bI,bII,bU,bUU,bVOCALIC R,cL,aVOWEL CANDRA E,1aLETTERa,bAI,aVOWEL CANDRA O,1aLETTERa,bAU,bKA,bKHA,bGA,bGHA,bNGA
bCA,bCHA,bJA,bJHA,bNYA,bTTA,bTTHA,bDDA,bDDHA,bNNA,bTA,bTHA,bDA,bDHA,bNA,1bPA,bPHA,bBA,bBHA,bMA,bYA,bRA,1bLA,bLLA
1bVA,bSHA,bSSA,bSA,bHA,2aSIGN NUKTA,bAVAGRAHA,aVOWEL SIGN AA,cI,cII,cU,cUU,cVOCALIC R,dRR,cCANDRA E,1ca,cAI
cCANDRA O,1ca,cAU,aSIGN VIRAMA,2aOM,15aLETTER VOCALIC RR,cLL,aVOWEL SIGN VOCALIC L,dLL,2aDIGIT ZERO,bONE,bTWO,bTHREE
bFOUR,bFIVE,bSIX,bSEVEN,bEIGHT,bNINE,aABBREVIATION SIGN,aRUPEEa,7aLETTER ZHA,aSIGN SUKUN,bSHADDA,bMADDAH
bTHREE-DOT NUKTA ABOVE,bCIRCLEb,bTWO-CIRCLEb,1ORIYA SIGN CANDRABINDU,bANUSVARA,bVISARGA,1aLETTER A,bAA,bI,bII,bU,bUU
bVOCALIC R,cL,2bE,bAI,2bO,bAU,bKA,bKHA,bGA,bGHA,bNGA,bCA,bCHA,bJA,bJHA,bNYA,bTTA,bTTHA,bDDA,bDDHA,bNNA,bTA,bTHA,bDA
bDHA,bNA,1bPA,bPHA,bBA,bBHA,bMA,bYA,bRA,1bLA,bLLA,1bVA,bSHA,bSSA,bSA,bHA,2aSIGN NUKTA,bAVAGRAHA,aVOWEL SIGN AA,cI
cII,cU,cUU,cVOCALIC R,dRR,2cE,cAI,2cO,cAU,aSIGN VIRAMA,7bOVERLINE,aAI LENGTH MARK,aAUb,4aLETTER RRA,bRHA,1bYYA
bVOCALIC RR,cLL,aVOWEL SIGN VOCALIC L,dLL,2aDIGIT ZERO,bONE,bTWO,bTHREE,bFOUR,bFIVE,bSIX,bSEVEN,bEIGHT,bNINE,aISSHAR
aLETTER WA,aFRACTION ONE QUARTER,cHALF,bTHREE QUARTERS,bONE SIXTEENTH,cEIGHTH,bTHREE SIXTEENTHS
10TAMIL SIGN ANUSVARA,bVISARGA,1aLETTER A,bAA,bI,bII,bU,bUU,3bE,bEE,bAI,1bO,bOO,bAU,bKA,3bNGA,bCA,1bJA,1bNYA,bTTA
3bNNA,bTA,3bNA,bNNNA,bPA,3bMA,bYA,bRA,bRRA,bLA,bLLA,bLLLA,bVA,bSHA,bSSA,bSA,bHA,4aVOWEL SIGN AA,cI,cII,cU,cUU,3cE
cEE,cAI,1cO,cOO,cAU,aSIGN VIRAMA,2aOM,6aAU LENGTH MARK,14aDIGIT ZERO,bONE,bTWO,bTHREE,bFOUR,bFIVE,bSIX,bSEVEN,bEIGHT
bNINE,aNUMBER TEN,bONE HUNDRED,cTHOUSAND,aDAY SIGN,aMONTHa,aYEARa,aDEBITa,aCREDITa,aAS ABOVEa,aRUPEEa,aNUMBERa
5TELUGU SIGN COMBINING CANDRABINDU ABOVE,bCANDRABINDU,bANUSVARA,bVISARGA,bCOMBINING ANUSVARA ABOVE,aLETTER A,bAA,bI
bII,bU,bUU,bVOCALIC R,cL,1bE,bEE,bAI,1bO,bOO,bAU,bKA,bKHA,bGA,bGHA,bNGA,bCA,bCHA,bJA,bJHA,bNYA,bTTA,bTTHA,bDDA,bDDHA
bNNA,bTA,bTHA,bDA,bDHA,bNA,1bPA,bPHA,bBA,bBHA,bMA,bYA,bRA,bRRA,bLA,bLLA,bLLLA,bVA,bSHA,bSSA,bSA,bHA,2aSIGN NUKTA
bAVAGRAHA,aVOWEL SIGN AA,cI,cII,cU,cUU,cVOCALIC R,dRR,1cE,cEE,cAI,1cO,cOO,cAU,aSIGN VIRAMA,7aLENGTH MARK,aAIb
1aLETTER TSA,bDZA,bRRRA,2bNAKAARA POLLU,2bVOCALIC RR,cLL,aVOWEL SIGN VOCALIC L,dLL,2aDIGIT ZERO,bONE,bTWO,bTHREE
bFOUR,bFIVE,bSIX,bSEVEN,bEIGHT,bNINE,7aSIGN SIDDHAM,aFRACTION DIGIT ZERO FOR ODD POWERS OF FOUR,cONEe,cTWOe,cTHREEe
cONE FOR EVENc,cTWOe,cTHREEe,aSIGN TUUMU,KANNADA SIGN SPACING CANDRABINDU,ba,bANUSVARA,bVISARGA,bSIDDHAM,aLETTER A
bAA,bI,bII,bU,bUU,bVOCALIC R,cL,1bE,bEE,bAI,1bO,bOO,bAU,bKA,bKHA,bGA,bGHA,bNGA,bCA,bCHA,bJA,bJHA,bNYA,bTTA,bTTHA
bDDA,bDDHA,bNNA,bTA,bTHA,bDA,bDHA,bNA,1bPA,bPHA,bBA,bBHA,bMA,bYA,bRA,bRRA,bLA,bLLA,1bVA,bSHA,bSSA,bSA,bHA
2aSIGN NUKTA,bAVAGRAHA,aVOWEL SIGN AA,cI,cII,cU,cUU,cVOCALIC R,dRR,1cE,cEE,cAI,1cO,cOO,cAU,aSIGN VIRAMA
7aLENGTH MARK,aAIb,6aLETTER NAKAARA POLLU,bFA,1bVOCALIC RR,cLL,aVOWEL SIGN VOCALIC L,dLL,2aDIGIT ZERO,bONE,bTWO
bTHREE,bFOUR,bFIVE,bSIX,bSEVEN,bEIGHT,bNINE,1aSIGN JIHVAMULIYA,bUPADHMANIYA
13MALAYALAM SIGN COMBINING ANUSVARA ABOVE,bCANDRABINDU,bANUSVARA,bVISARGA,aLETTER VEDIC ANUSVARA,bA,bAA,bI,bII,bU
bUU,bVOCALIC R,cL,1bE,bEE,bAI,1bO,bOO,bAU,bKA,bKHA,bGA,bGHA,bNGA,bCA,bCHA,bJA,bJHA,bNYA,bTTA,bTTHA,bDDA,bDDHA,bNNA
bTA,bTHA,bDA,bDHA,bNA,bNNNA,bPA,bPHA,bBA,bBHA,bMA,bYA,bRA,bRRA,bLA,bLLA,bLLLA,bVA,bSHA,bSSA,bSA,bHA,bTTTA
aSIGN VERTICAL BAR VIRAMA,bCIRCULARa,bAVAGRAHA,aVOWEL SIGN AA,cI,cII,cU,cUU,cVOCALIC R,dRR,1cE,cEE,cAI,1cO,cOO,cAU
aSIGN VIRAMA,aLETTER DOT REPH,aSIGN PARA,4aLETTER CHILLU M,cY,cLLL,aAU LENGTH MARK
aFRACTION ONE ONE-HUNDRED-AND-SIXTIETH,cFORTIETH,bTHREE EIGHTIETHS,bONE TWENTIETH,cTENTH,bTHREE TWENTIETHS
bONE FIFTH,aLETTER ARCHAIC II,bVOCALIC RR,cLL,aVOWEL SIGN VOCALIC L,dLL,2aDIGIT ZERO,bONE,bTWO,bTHREE,bFOUR,bFIVE
bSIX,bSEVEN,bEIGHT,bNINE,aNUMBER TEN,bONE HUNDRED,cTHOUSAND,aFRACTION ONE QUARTER,cHALF,bTHREE QUARTERS
bONE SIXTEENTH,cEIGHTH,bTHREE SIXTEENTHS,aDATE MARK,aLETTER CHILLU NN,cN,cRR,cL,cLL,cK,1SINHALA SIGN CANDRABINDU
bANUSVARAYA,bVISARGAYA,1aLETTER AYANNA,bAAYANNA,bAEYANNA,bAEEYANNA,bIYANNA,bIIYANNA,bUYANNA,bUUYANNA,bIRUYANNA
bIRUUYANNA,bILUYANNA,bILUUYANNA,bEYANNA,bEEYANNA,bAIYANNA,bOYANNA,bOOYANNA,bAUYANNA,3bALPAPRAANA KAYANNA
bMAHAAPRAANAa,bALPAPRAANA GAYANNA,bMAHAAPRAANAa,bKANTAJA NAASIKYAYA,bSANYAKA GAYANNA,bALPAPRAANA CAYANNA
bMAHAAPRAANAa,bALPAPRAANA JAYANNA,bMAHAAPRAANAa,bTAALUJA NAASIKYAYA,cSANYOOGA NAAKSIKYAYA,bSANYAKA JAYANNA
bALPAPRAANA TTAYANNA,bMAHAAPRAANAa,bALPAPRAANA DDAYANNA,bMAHAAPRAANAa,bMUURDHAJA NAYANNA,bSANYAKA DDAYANNA
bALPAPRAANA TAYANNA,bMAHAAPRAANAa,bALPAPRAANA DAYANNA,bMAHAAPRAANAa,bDANTAJA NAYANNA,1bSANYAKA DAYANNA
bALPAPRAANA PAYANNA,bMAHAAPRAANAa,bALPAPRAANA BAYANNA,bMAHAAPRAANAa,bMAYANNA,bAMBA BAYANNA,bYAYANNA,bRAYANNA
1bDANTAJA LAYANNA,2bVAYANNA,bTAALUJA SAYANNA,bMUURDHAJAa,bDANTAJAa,bHAYANNA,bMUURDHAJA LAYANNA,bFAYANNA
3aSIGN AL-LAKUNA,4aVOWEL SIGN AELA-PILLA,cKETTI AEDA-PILLA,cDIGAa,cKETTI IS-PILLA,cDIGAa,cKETTI PAA-PILLA,1cDIGAa
1cGAETTA-PILLA,cKOMBUVA,cDIGAa,cKOMBU DEKA,cKOMBUVA HAA AELA-PILLA,eDIGAa,eGAYANUKITTA,ca,6aLITH DIGIT ZERO,cONE
cTWO,cTHREE,cFOUR,cFIVE,cSIX,cSEVEN,cEIGHT,cNINE,2aVOWEL SIGN DIGA GAETTA-PILLA,dGAYANUKITTA,aPUNCTUATION KUNDDALIYA
12THAI CHARACTER KO KAI,bKHO KHAI,cKHUAT,cKHWAI,cKHON,cRAKHANG,bNGO NGU,bCHO CHAN,cCHING,cCHANG,bSO SO,bCHO CHOE
bYO YING,bDO CHADA,bTO PATAK,bTHO THAN,cNANGMONTHO,cPHUTHAO,bNO NEN,bDO DEK,bTO TAO,bTHO THUNG,cTHAHAN,cTHONG,bNO NU
bBO BAIMAI,bPO PLA,bPHO PHUNG,bFO FA,bPHO PHAN,bFO FAN,bPHO SAMPHAO,bMO MA,bYO YAK,bRO RUA,bRU,bLO LING,bLU,bWO WAEN
bSO SALA,cRUSI,cSUA,bHO HIP,bLO CHULA,bO ANG,bHO NOKHUK,bPAIYANNOI,bSARA A,bMAI HAN-AKAT,bSARA AA,cAM,cI,cII,cUE
cUEE,cU,cUU,bPHINTHU,4aCURRENCY SYMBOL BAHT,aCHARACTER SARA E,cAE,cO,cAI MAIMUAN,dMAIMALAI,bLAKKHANGYAO,bMAIYAMOK
bMAITAIKHU,bMAI EK,cTHO,cTRI,cCHATTAWA,bTHANTHAKHAT,bNIKHAHIT,bYAMAKKAN,bFONGMAN,aDIGIT ZERO,bONE,bTWO,bTHREE,bFOUR
bFIVE,bSIX,bSEVEN,bEIGHT,bNINE,aCHARACTER ANGKHANKHU,bKHOMUT,37LAO LETTER KO,bKHO SUNG,1cTAM,1bPALI GHA,bNGO,bCO
bPALI CHA,bSO TAM,1bPALI JHA,bNYO,bPALI NYA,cTTA,cTTHA,cDDA,cDDHA,cNNA,bDO,bTO,bTHO SUNG,cTAM,bPALI DHA,bNO,bBO,bPO
bPHO SUNG,bFO TAM,bPHOa,bFO SUNG,bPALI BHA,bMO,bYO,bLO LING,1cLOOT,1bWO,bSANSKRIT SHA,cSSA,bSO SUNG,bHOa,bPALI LLA
bO,bHO TAM,aELLIPSIS,aVOWEL SIGN A,cMAI KAN,cAA,cAM,cI,cII,cY,cYY,cU,cUU,aSIGN PALI VIRAMA,aVOWEL SIGN MAI KON
aSEMIVOWEL SIGN LO,cNYO,2aVOWEL SIGN E,cEI,cO,cAY,cAI,1aKO LA,1aTONE MAI EK,cTHO,cTI,cCATAWA,aCANCELLATION MARK
aNIGGAHITA,2aDIGIT ZERO,bONE,bTWO,bTHREE,bFOUR,bFIVE,bSIX,bSEVEN,bEIGHT,bNINE,2aHO NO,bMO,aLETTER KHMU GO,cNYO
32TIBETAN SYLLABLE OM,aMARK GTER YIG MGO TRUNCATED A,e-UM RNAM BCAD MA,fGTER TSHEGa,bINITIAL YIG MGO MDUNa
bCLOSING YIG MGO SGABa,bCARET YIG MGO PHUR SHADa,bYIG MGO TSHEGb,bSBRUL SHAD,bBSKUR YIG MGO,bBKA- SHOGb
bINTERSYLLABIC TSHEG,bDELIMITER TSHEG BSTAR,bSHAD,bNYISa,bTSHEGa,bNYISb,bRIN CHEN SPUNGSa,bRGYA GRAMa
bCARET -DZUD RTAGS ME LONG CAN,bGTER TSHEG,aLOGOTYPE SIGN CHAD RTAGS,cLHAGa,aASTROLOGICAL SIGN SGRA GCAN -CHARa
c-KHYUD PA,cSDONG TSHUGS,aSIGN RDEL DKAR GCIG,dGNYIS,dGSUM,cNAG GCIG,dGNYIS,cDKAR RDEL NAG,aDIGIT ZERO,bONE,bTWO
bTHREE,bFOUR,bFIVE,bSIX,bSEVEN,bEIGHT,bNINE,bHALF ONE,cTWO,cTHREE,cFOUR,cFIVE,cSIX,cSEVEN,cEIGHT,cNINE,cZERO
aMARK BSDUS RTAGS,bNGAS BZUNG NYI ZLA,bCARET -DZUD RTAGS BZHI MIG CAN,bNGAS BZUNG SGOR RTAGS,bCHE MGO,bTSA -PHRU
bGUG RTAGS GYON,dGYAS,bANG KHANG GYON,dGYAS,aSIGN YAR TSHES,bMARa,aLETTER KA,bKHA,bGA,bGHA,bNGA,bCA,bCHA,bJA,1bNYA
bTTA,bTTHA,bDDA,bDDHA,bNNA,bTA,bTHA,bDA,bDHA,bNA,bPA,bPHA,bBA,bBHA,bMA,bTSA,bTSHA,bDZA,bDZHA,bWA,bZHA,bZA,b-A,bYA
bRA,bLA,bSHA,bSSA,bSA,bHA,bA,bKSSA,bFIXED-FORM RA,bKKA,bRRA,4aVOWEL SIGN AA,cI,cII,cU,cUU,cVOCALIC R,dRR,dL,dLL,cE
cEE,cO,cOO,aSIGN RJES SU NGA RO,bRNAM BCAD,aVOWEL SIGN REVERSED I,dII,aSIGN NYI ZLA NAA DA,bSNA LDAN,aMARK HALANTA
bPALUTA,aSIGN LCI RTAGS,bYANGa,bLCE TSA CAN,bMCHUa,bGRU CAN RGYINGS,cMEDa,bINVERTED MCHU CAN
aSUBJOINED SIGN LCE TSAa,cMCHUa,cINVERTEDb,bLETTER KA,cKHA,cGA,cGHA,cNGA,cCA,cCHA,cJA,1cNYA,cTTA,cTTHA,cDDA,cDDHA
cNNA,cTA,cTHA,cDA,cDHA,cNA,cPA,cPHA,cBA,cBHA,cMA,cTSA,cTSHA,cDZA,cDZHA,cWA,cZHA,cZA,c-A,cYA,cRA,cLA,cSHA,cSSA,cSA
cHA,cA,cKSSA,cFIXED-FORM WA,dYA,dRA,1aKU RU KHA,dBZHI MIG CAN,aCANTILLATION SIGN HEAVY BEAT,cLIGHTa,cCANG TE-U
cSBUB -CHAL,aSYMBOL DRIL BU,bRDO RJE,bPADMA GDAN,bRDO RJE RGYA GRAM,bPHUR PA,bNOR BU,dNYIS -KHYIL,dGSUMa,dBZHIa
1aSIGN RDEL NAG RDEL DKAR,dGSUM,aMARK BSKA- SHOG GI MGO RGYAN,bMNYAM YIGc,bNYIS TSHEG
bINITIAL BRDA RNYING YIG MGO MDUN MA,bCLOSING BRDA RNYING YIG MGO SGABa,RIGHT-FACING SVASTI SIGN,LEFT-FACINGb
RIGHT-FACING SVASTI SIGN WITH DOTS,LEFT-FACINGd,TIBETAN MARK LEADING MCHAN RTAGS,bTRAILINGb,37MYANMAR LETTER KA,bKHA
bGA,bGHA,bNGA,bCA,bCHA,bJA,bJHA,bNYA,bNNYA,bTTA,bTTHA,bDDA,bDDHA,bNNA,bTA,bTHA,bDA,bDHA,bNA,bPA,bPHA,bBA,bBHA,bMA
bYA,bRA,bLA,bWA,bSA,bHA,bLLA,bA,bSHANa,bI,bII,bU,bUU,bE,bMONa,bO,bAU,aVOWEL SIGN TALL AA,ca,cI,cII,cU,cUU,cE,cAI
cMON II,dO,cE ABOVE,aSIGN ANUSVARA,bDOT BELOW,bVISARGA,bVIRAMA,bASAT,aCONSONANT SIGN MEDIAL YA,dRA,dWA,dHA
aLETTER GREAT SA,aDIGIT ZERO,bONE,bTWO,bTHREE,bFOUR,bFIVE,bSIX,bSEVEN,bEIGHT,bNINE,aSIGN LITTLE SECTION,ba
aSYMBOL LOCATIVE,bCOMPLETED,bAFOREMENTIONED,bGENITIVE,aLETTER SHA,bSSA,bVOCALIC R,cRR,cL,cLL,aVOWEL SIGN VOCALIC R
dRR,dL,dLL,aLETTER MON NGA,cJHA,cBBA,cBBE,aCONSONANT SIGN MON MEDIAL NA,eMA,eLA,aLETTER SGAW KAREN SHA
aVOWEL SIGN SGAW KAREN EU,aTONE MARK SGAW KAREN HATHI,eKE PHO,aLETTER WESTERN PWO KAREN THA,ePWA
aVOWEL SIGN WESTERN PWO KAREN EU,fUE,aSIGN WESTERN PWO KAREN TONE-1,eTONE-2,eTONE-3,eTONE-4,eTONE-5
aLETTER EASTERN PWO KAREN NNA,eYWA,eGHWA,aVOWEL SIGN GEBA KAREN I,cKAYAH OE,dU,dEE,aLETTER SHAN KA,cKHA,cGA,cCA,cZA
cNYA,cDA,cNA,cPHA,cFA,cBA,cTHA,cHA,aCONSONANT SIGN SHAN MEDIAL WA,aVOWEL SIGN SHAN AA,dE,eABOVE,dFINAL Y
aSIGN SHAN TONE-2,cTONE-3,cTONE-5,cTONE-6,cCOUNCIL TONE-2,dTONE-3,dEMPHATIC TONE,aLETTER RUMAI PALAUNG FA
aSIGN RUMAI PALAUNG TONE-5,aSHAN DIGIT ZERO,cONE,cTWO,cTHREE,cFOUR,cFIVE,cSIX,cSEVEN,cEIGHT,cNINE
aSIGN KHAMTI TONE-1,cTONE-3,aVOWEL SIGN AITON A,dAI,aSYMBOL SHAN ONE,cEXCLAMATION,GEORGIAN CAPITAL LETTER AN,cBAN
cGAN,cDON,cEN,cVIN,cZEN,cTAN,cIN,cKAN,cLAS,cMAN,cNAR,cON,cPAR,cZHAR,cRAE,cSAN,cTAR,cUN,cPHAR,cKHAR,cGHAN,cQAR,cSHIN
cCHIN,cCAN,cJIL,cCIL,cCHAR,cXAN,cJHAN,cHAE,cHE,cHIE,cWE,cHAR,cHOE,1cYN,5cAEN,2aLETTER AN,bBAN,bGAN,bDON,bEN,bVIN
bZEN,bTAN,bIN,bKAN,bLAS,bMAN,bNAR,bON,bPAR,bZHAR,bRAE,bSAN,bTAR,bUN,bPHAR,bKHAR,bGHAN,bQAR,bSHIN,bCHIN,bCAN,bJIL
bCIL,bCHAR,bXAN,bJHAN,bHAE,bHE,bHIE,bWE,bHAR,bHOE,bFI,bYN,bELIFI,bTURNED GAN,bAIN,aPARAGRAPH SEPARATOR
MODIFIER LETTER GEORGIAN NAR,GEORGIAN LETTER AEN,bHARD SIGN,bLABIALa,HANGUL CHOSEONG KIYEOK,bSSANGKIYEOK,bNIEUN
bTIKEUT,bSSANGTIKEUT,bRIEUL,bMIEUM,bPIEUP,bSSANGPIEUP,bSIOS,bSSANGSIOS,bIEUNG,bCIEUC,bSSANGCIEUC,bCHIEUCH,bKHIEUKH
bTHIEUTH,bPHIEUPH,bHIEUH,bNIEUN-KIYEOK,bSSANGNIEUN,bNIEUN-TIKEUT,bNIEUN-PIEUP,bTIKEUT-KIYEOK,bRIEUL-NIEUN
bSSANGRIEUL,bRIEUL-HIEUH,bKAPYEOUNRIEUL,bMIEUM-PIEUP,bKAPYEOUNMIEUM,bPIEUP-KIYEOK,bPIEUP-NIEUN,bPIEUP-TIKEUT
bPIEUP-SIOS,bPIEUP-SIOS-KIYEOK,bPIEUP-SIOS-TIKEUT,bPIEUP-SIOS-PIEUP,bPIEUP-SSANGSIOS,bPIEUP-SIOS-CIEUC,bPIEUP-CIEUC
bPIEUP-CHIEUCH,bPIEUP-THIEUTH,bPIEUP-PHIEUPH,bKAPYEOUNPIEUP,bKAPYEOUNSSANGPIEUP,bSIOS-KIYEOK,bSIOS-NIEUN
bSIOS-TIKEUT,bSIOS-RIEUL,bSIOS-MIEUM,bSIOS-PIEUP,bSIOS-PIEUP-KIYEOK,bSIOS-SSANGSIOS,bSIOS-IEUNG,bSIOS-CIEUC
bSIOS-CHIEUCH,bSIOS-KHIEUKH,bSIOS-THIEUTH,bSIOS-PHIEUPH,bSIOS-HIEUH,bCHITUEUMSIOS,bCHITUEUMSSANGSIOS
bCEONGCHIEUMSIOS,bCEONGCHIEUMSSANGSIOS,bPANSIOS,bIEUNG-KIYEOK,bIEUNG-TIKEUT,bIEUNG-MIEUM,bIEUNG-PIEUP,bIEUNG-SIOS
bIEUNG-PANSIOS,bSSANGIEUNG,bIEUNG-CIEUC,bIEUNG-CHIEUCH,bIEUNG-THIEUTH,bIEUNG-PHIEUPH,bYESIEUNG,bCIEUC-IEUNG
bCHITUEUMCIEUC,bCHITUEUMSSANGCIEUC,bCEONGCHIEUMCIEUC,bCEONGCHIEUMSSANGCIEUC,bCHIEUCH-KHIEUKH,bCHIEUCH-HIEUH
bCHITUEUMCHIEUCH,bCEONGCHIEUMCHIEUCH,bPHIEUPH-PIEUP,bKAPYEOUNPHIEUPH,bSSANGHIEUH,bYEORINHIEUH,bKIYEOK-TIKEUT
bNIEUN-SIOS,bNIEUN-CIEUC,bNIEUN-HIEUH,bTIKEUT-RIEUL,bFILLER,aJUNGSEONGa,bA,bAE,bYA,bYAE,bEO,bE,bYEO,bYE,bO,bWA,bWAE
bOE,bYO,bU,bWEO,bWE,bWI,bYU,bEU,bYI,bI,bA-O,bA-U,bYA-O,bYA-YO,bEO-O,bEO-U,bEO-EU,bYEO-O,bYEO-U,bO-EO,bO-E,bO-YE,bO-O
bO-U,bYO-YA,bYO-YAE,bYO-YEO,bYO-O,bYO-I,bU-A,bU-AE,bU-EO-EU,bU-YE,bU-U,bYU-A,bYU-EO,bYU-E,bYU-YEO,bYU-YE,bYU-U,bYU-I
bEU-U,bEU-EU,bYI-U,bI-A,bI-YA,bI-O,bI-U,bI-EU,bI-ARAEA,bARAEA,bARAEA-EO,bARAEA-U,bARAEA-I,bSSANGARAEA,bA-EU,bYA-U
bYEO-YA,bO-YA,bO-YAE,aJONGSEONG KIYEOK,bSSANGKIYEOK,bKIYEOK-SIOS,bNIEUN,bNIEUN-CIEUC,bNIEUN-HIEUH,bTIKEUT,bRIEUL
bRIEUL-KIYEOK,bRIEUL-MIEUM,bRIEUL-PIEUP,bRIEUL-SIOS,bRIEUL-THIEUTH,bRIEUL-PHIEUPH,bRIEUL-HIEUH,bMIEUM,bPIEUP
bPIEUP-SIOS,bSIOS,bSSANGSIOS,bIEUNG,bCIEUC,bCHIEUCH,bKHIEUKH,bTHIEUTH,bPHIEUPH,bHIEUH,bKIYEOK-RIEUL
bKIYEOK-SIOS-KIYEOK,bNIEUN-KIYEOK,bNIEUN-TIKEUT,bNIEUN-SIOS,bNIEUN-PANSIOS,bNIEUN-THIEUTH,bTIKEUT-KIYEOK
bTIKEUT-RIEUL,bRIEUL-KIYEOK-SIOS,bRIEUL-NIEUN,bRIEUL-TIKEUT,bRIEUL-TIKEUT-HIEUH,bSSANGRIEUL,bRIEUL-MIEUM-KIYEOK
bRIEUL-MIEUM-SIOS,bRIEUL-PIEUP-SIOS,bRIEUL-PIEUP-HIEUH,bRIEUL-KAPYEOUNPIEUP,bRIEUL-SSANGSIOS,bRIEUL-PANSIOS
bRIEUL-KHIEUKH,bRIEUL-YEORINHIEUH,bMIEUM-KIYEOK,bMIEUM-RIEUL,bMIEUM-PIEUP,bMIEUM-SIOS,bMIEUM-SSANGSIOS
bMIEUM-PANSIOS,bMIEUM-CHIEUCH,bMIEUM-HIEUH,bKAPYEOUNMIEUM,bPIEUP-RIEUL,bPIEUP-PHIEUPH,bPIEUP-HIEUH,bKAPYEOUNPIEUP
bSIOS-KIYEOK,bSIOS-TIKEUT,bSIOS-RIEUL,bSIOS-PIEUP,bPANSIOS,bIEUNG-KIYEOK,bIEUNG-SSANGKIYEOK,bSSANGIEUNG
bIEUNG-KHIEUKH,bYESIEUNG,bYESIEUNG-SIOS,bYESIEUNG-PANSIOS,bPHIEUPH-PIEUP,bKAPYEOUNPHIEUPH,bHIEUH-NIEUN,bHIEUH-RIEUL
bHIEUH-MIEUM,bHIEUH-PIEUP,bYEORINHIEUH,bKIYEOK-NIEUN,bKIYEOK-PIEUP,bKIYEOK-CHIEUCH,bKIYEOK-KHIEUKH,bKIYEOK-HIEUH
bSSANGNIEUN,ETHIOPIC SYLLABLE HA,bHU,bHI,bHAA,bHEE,bHE,bHO,bHOA,bLA,bLU,bLI,bLAA,bLEE,bLE,bLO,bLWA,bHHA,bHHU,bHHI
bHHAA,bHHEE,bHHE,bHHO,bHHWA,bMA,bMU,bMI,bMAA,bMEE,bME,bMO,bMWA,bSZA,bSZU,bSZI,bSZAA,bSZEE,bSZE,bSZO,bSZWA,bRA,bRU
bRI,bRAA,bREE,bRE,bRO,bRWA,bSA,bSU,bSI,bSAA,bSEE,bSE,bSO,bSWA,bSHA,bSHU,bSHI,bSHAA,bSHEE,bSHE,bSHO,bSHWA,bQA,bQU,bQI
bQAA,bQEE,bQE,bQO,bQOA,bQWA,1bQWI,bQWAA,bQWEE,bQWE,2bQHA,bQHU,bQHI,bQHAA,bQHEE,bQHE,bQHO,1bQHWA,1bQHWI,bQHWAA,bQHWEE
bQHWE,2bBA,bBU,bBI,bBAA,bBEE,bBE,bBO,bBWA,bVA,bVU,bVI,bVAA,bVEE,bVE,bVO,bVWA,bTA,bTU,bTI,bTAA,bTEE,bTE,bTO,bTWA,bCA
bCU,bCI,bCAA,bCEE,bCE,bCO,bCWA,bXA,bXU,bXI,bXAA,bXEE,bXE,bXO,bXOA,bXWA,1bXWI,bXWAA,bXWEE,bXWE,2bNA,bNU,bNI,bNAA,bNEE
bNE,bNO,bNWA,bNYA,bNYU,bNYI,bNYAA,bNYEE,bNYE,bNYO,bNYWA,bGLOTTAL A,cU,cI,cAA,cEE,cE,cO,cWA,bKA,bKU,bKI,bKAA,bKEE,bKE
bKO,bKOA,bKWA,1bKWI,bKWAA,bKWEE,bKWE,2bKXA,bKXU,bKXI,bKXAA,bKXEE,bKXE,bKXO,1bKXWA,1bKXWI,bKXWAA,bKXWEE,bKXWE,2bWA
bWU,bWI,bWAA,bWEE,bWE,bWO,bWOA,bPHARYNGEAL A,cU,cI,cAA,cEE,cE,cO,1bZA,bZU,bZI,bZAA,bZEE,bZE,bZO,bZWA,bZHA,bZHU,bZHI
bZHAA,bZHEE,bZHE,bZHO,bZHWA,bYA,bYU,bYI,bYAA,bYEE,bYE,bYO,bYOA,bDA,bDU,bDI,bDAA,bDEE,bDE,bDO,bDWA,bDDA,bDDU,bDDI
bDDAA,bDDEE,bDDE,bDDO,bDDWA,bJA,bJU,bJI,bJAA,bJEE,bJE,bJO,bJWA,bGA,bGU,bGI,bGAA,bGEE,bGE,bGO,bGOA,bGWA,1bGWI,bGWAA
bGWEE,bGWE,2bGGA,bGGU,bGGI,bGGAA,bGGEE,bGGE,bGGO,bGGWAA,bTHA,bTHU,bTHI,bTHAA,bTHEE,bTHE,bTHO,bTHWA,bCHA,bCHU,bCHI
bCHAA,bCHEE,bCHE,bCHO,bCHWA,bPHA,bPHU,bPHI,bPHAA,bPHEE,bPHE,bPHO,bPHWA,bTSA,bTSU,bTSI,bTSAA,bTSEE,bTSE,bTSO,bTSWA
bTZA,bTZU,bTZI,bTZAA,bTZEE,bTZE,bTZO,bTZOA,bFA,bFU,bFI,bFAA,bFEE,bFE,bFO,bFWA,bPA,bPU,bPI,bPAA,bPEE,bPE,bPO,bPWA
bRYA,bMYA,bFYA,2aCOMBINING GEMINATION AND VOWEL LENGTH MARK,bc,bGEMINATIONa,aSECTIONa,aWORDSPACE,aFULL STOP,aCOMMA
aSEMICOLON,aCOLON,aPREFACEa,aQUESTION MARK,aPARAGRAPH SEPARATOR,aDIGIT ONE,bTWO,bTHREE,bFOUR,bFIVE,bSIX,bSEVEN
bEIGHT,bNINE,aNUMBER TEN,bTWENTY,bTHIRTY,bFORTY,bFIFTY,bSIXTY,bSEVENTY,bEIGHTY,bNINETY,bHUNDRED,bTEN THOUSAND
3aSYLLABLE SEBATBEIT MWA,bMWI,bMWEE,bMWE,bSEBATBEIT BWA,bBWI,bBWEE,bBWE,bSEBATBEIT FWA,bFWI,bFWEE,bFWE
bSEBATBEIT PWA,bPWI,bPWEE,bPWE,aTONAL MARK YIZET,cDERET,cRIKRIK,cSHORTa,cDIFAT,cKENAT,cCHIRET,cHIDET,cDERET-HIDET
cKURT,6CHEROKEE LETTER A,bE,bI,bO,bU,bV,bGA,bKA,bGE,bGI,bGO,bGU,bGV,bHA,bHE,bHI,bHO,bHU,bHV,bLA,bLE,bLI,bLO,bLU,bLV
bMA,bME,bMI,bMO,bMU,bNA,bHNA,bNAH,bNE,bNI,bNO,bNU,bNV,bQUA,bQUE,bQUI,bQUO,bQUU,bQUV,bSA,bS,bSE,bSI,bSO,bSU,bSV,bDA
bTA,bDE,bTE,bDI,bTI,bDO,bDU,bDV,bDLA,bTLA,bTLE,bTLI,bTLO,bTLU,bTLV,bTSA,bTSE,bTSI,bTSO,bTSU,bTSV,bWA,bWE,bWI,bWO,bWU
bWV,bYA,bYE,bYI,bYO,bYU,bYV,bMV,2aSMALL LETTER YE,cYI,cYO,cYU,cYV,cMV,2CANADIAN SYLLABICS HYPHEN,bE,bAAI,bI,bII,bO
bOO,bY-CREEa,bCARRIER EE,cI,bA,bAA,bWE,bWEST-CREEa,bWI,bWEST-CREEa,bWII,bWEST-CREEa,bWO,bWEST-CREEa,bWOO,bWEST-CREEa
bNASKAPIa,bWA,bWEST-CREEa,bWAA,bWEST-CREEa,bNASKAPIa,bAI,bY-CREE W,bGLOTTAL STOP,bFINAL ACUTE,cGRAVE
cBOTTOM HALF RING,cTOPb,cRIGHTb,ca,cDOUBLE ACUTE,dSHORT VERTICAL STROKES,cMIDDLE DOT,cSHORT HORIZONTAL STROKE,cPLUS
cDOWN TACK,bEN,bIN,bON,bAN,bPE,bPAAI,bPI,bPII,bPO,bPOO,bY-CREEa,bCARRIER HEE,cHI,bPA,bPAA,bPWE,bWEST-CREEa,bPWI
bWEST-CREEa,bPWII,bWEST-CREEa,bPWO,bWEST-CREEa,bPWOO,bWEST-CREEa,bPWA,bWEST-CREEa,bPWAA,bWEST-CREEa,bY-CREEa,bP
bWEST-CREEa,bCARRIER H,bTE,bTAAI,bTI,bTII,bTO,bTOO,bY-CREEa,bCARRIER DEE,cDI,bTA,bTAA,bTWE,bWEST-CREEa,bTWI
bWEST-CREEa,bTWII,bWEST-CREEa,bTWO,bWEST-CREEa,bTWOO,bWEST-CREEa,bTWA,bWEST-CREEa,bTWAA,bWEST-CREEa,bNASKAPIa,bT
bTTE,bTTI,bTTO,bTTA,bKE,bKAAI,bKI,bKII,bKO,bKOO,bY-CREEa,bKA,bKAA,bKWE,bWEST-CREEa,bKWI,bWEST-CREEa,bKWII
bWEST-CREEa,bKWO,bWEST-CREEa,bKWOO,bWEST-CREEa,bKWA,bWEST-CREEa,bKWAA,bWEST-CREEa,bNASKAPIa,bK,bKW,bSOUTH-SLAVEY KEH
cKIH,cKOH,cKAH,bCE,bCAAI,bCI,bCII,bCO,bCOO,bY-CREEa,bCA,bCAA,bCWE,bWEST-CREEa,bCWI,bWEST-CREEa,bCWII,bWEST-CREEa
bCWO,bWEST-CREEa,bCWOO,bWEST-CREEa,bCWA,bWEST-CREEa,bCWAA,bWEST-CREEa,bNASKAPIa,bC,bSAYISI TH,bME,bMAAI,bMI,bMII,bMO
bMOO,bY-CREEa,bMA,bMAA,bMWE,bWEST-CREEa,bMWI,bWEST-CREEa,bMWII,bWEST-CREEa,bMWO,bWEST-CREEa,bMWOO,bWEST-CREEa,bMWA
bWEST-CREEa,bMWAA,bWEST-CREEa,bNASKAPIa,bM,bWEST-CREEa,bMH,bATHAPASCAN M,bSAYISIa,bNE,bNAAI,bNI,bNII,bNO,bNOO
bY-CREEa,bNA,bNAA,bNWE,bWEST-CREEa,bNWA,bWEST-CREEa,bNWAA,bWEST-CREEa,bNASKAPIa,bN,bCARRIER NG,bNH,bLE,bLAAI,bLI
bLII,bLO,bLOO,bY-CREEa,bLA,bLAA,bLWE,bWEST-CREEa,bLWI,bWEST-CREEa,bLWII,bWEST-CREEa,bLWO,bWEST-CREEa,bLWOO
bWEST-CREEa,bLWA,bWEST-CREEa,bLWAA,bWEST-CREEa,bL,bWEST-CREEa,bMEDIALa,bSE,bSAAI,bSI,bSII,bSO,bSOO,bY-CREEa,bSA,bSAA
bSWE,bWEST-CREEa,bSWI,bWEST-CREEa,bSWII,bWEST-CREEa,bSWO,bWEST-CREEa,bSWOO,bWEST-CREEa,bSWA,bWEST-CREEa,bSWAA
bWEST-CREEa,bNASKAPIa,bS,bATHAPASCANa,bSW,bBLACKFOOT S,bMOOSE-CREE SK,bNASKAPI SKW,cS-W,cSPWA,cSTWA,cSKWA,cSCWA,bSHE
bSHI,bSHII,bSHO,bSHOO,bSHA,bSHAA,bSHWE,bWEST-CREEa,bSHWI,bWEST-CREEa,bSHWII,bWEST-CREEa,bSHWO,bWEST-CREEa,bSHWOO
bWEST-CREEa,bSHWA,bWEST-CREEa,bSHWAA,bWEST-CREEa,bSH,bYE,bYAAI,bYI,bYII,bYO,bYOO,bY-CREEa,bYA,bYAA,bYWE,bWEST-CREEa
bYWI,bWEST-CREEa,bYWII,bWEST-CREEa,bYWO,bWEST-CREEa,bYWOO,bWEST-CREEa,bYWA,bWEST-CREEa,bYWAA,bWEST-CREEa,bNASKAPIa
bY,bBIBLE-CREEa,bWEST-CREEa,bSAYISI YI,bRE,bR-CREEa,bWEST-CREE LE,bRAAI,bRI,bRII,bRO,bROO,bWEST-CREE LO,bRA,bRAA
bWEST-CREE LA,bRWAA,bWEST-CREEa,bR,bWEST-CREEa,bMEDIALa,bFE,bFAAI,bFI,bFII,bFO,bFOO,bFA,bFAA,bFWAA,bWEST-CREEa,bF
bTHE,bN-CREEa,bTHI,bN-CREEa,bTHII,bN-CREEa,bTHO,bTHOO,bTHA,bTHAA,bTHWAA,bWEST-CREEa,bTH,bTTHE,bTTHI,bTTHO,bTTHA,bTTH
bTYE,bTYI,bTYO,bTYA,bNUNAVIK HE,cHI,cHII,cHO,cHOO,cHA,cHAA,cH,bNUNAVUTa,bHK,bQAAI,bQI,bQII,bQO,bQOO,bQA,bQAA,bQ
bTLHE,bTLHI,bTLHO,bTLHA,bWEST-CREE RE,cRI,cRO,cRA,bNGAAI,bNGI,bNGII,bNGO,bNGOO,bNGA,bNGAA,bNG,bNNG,bSAYISI SHE,cSHI
cSHO,cSHA,bWOODS-CREE THE,cTHI,cTHO,cTHA,cTH,bLHI,bLHII,bLHO,bLHOO,bLHA,bLHAA,bLH,bTH-CREE THE,cTHI,cTHII,cTHO,cTHOO
cTHA,cTHAA,cTH,bAIVILIK B,bBLACKFOOT E,cI,cO,cA,cWE,cWI,cWO,cWA,cNE,cNI,cNO,cNA,cKE,cKI,cKO,cKA,bSAYISI HE,cHI,cHO
cHA,bCARRIER GHU,cGHO,cGHE,cGHEE,cGHI,cGHA,cRU,cRO,cRE,cREE,cRI,cRA,cWU,cWO,cWE,cWEE,cWI,cWA,cHWU,cHWO,cHWE,cHWEE
cHWI,cHWA,cTHU,cTHO,cTHE,cTHEE,cTHI,cTHA,cTTU,cTTO,cTTE,cTTEE,cTTI,cTTA,cPU,cPO,cPE,cPEE,cPI,cPA,cP,cGU,cGO,cGE,cGEE
cGI,cGA,cKHU,cKHO,cKHE,cKHEE,cKHI,cKHA,cKKU,cKKO,cKKE,cKKEE,cKKI,cKKA,cKK,cNU,cNO,cNE,cNEE,cNI,cNA,cMU,cMO,cME,cMEE
cMI,cMA,cYU,cYO,cYE,cYEE,cYI,cYA,cJU,bSAYISIa,bCARRIER JO,cJE,cJEE,cJI,bSAYISIa,bCARRIER JA,cJJU,cJJO,cJJE,cJJEE
cJJI,cJJA,cLU,cLO,cLE,cLEE,cLI,cLA,cDLU,cDLO,cDLE,cDLEE,cDLI,cDLA,cLHU,cLHO,cLHE,cLHEE,cLHI,cLHA,cTLHU,cTLHO,cTLHE
cTLHEE,cTLHI,cTLHA,cTLU,cTLO,cTLE,cTLEE,cTLI,cTLA,cZU,cZO,cZE,cZEE,cZI,cZA,cZ,cINITIALa,cDZU,cDZO,cDZE,cDZEE,cDZI
cDZA,cSU,cSO,cSE,cSEE,cSI,cSA,cSHU,cSHO,cSHE,cSHEE,cSHI,cSHA,cSH,cTSU,cTSO,cTSE,cTSEE,cTSI,cTSA,cCHU,cCHO,cCHE,cCHEE
cCHI,cCHA,cTTSU,cTTSO,cTTSE,cTTSEE,cTTSI,cTTSA,bCHI SIGN,bFULL STOP,bQAI,bNGAI,bNNGI,bNNGII,bNNGO,bNNGOO,bNNGA
bNNGAA,bWOODS-CREE THWEE,cTHWI,cTHWII,cTHWO,cTHWOO,cTHWA,cTHWAA,cFINAL TH,bBLACKFOOT W,OGHAM SPACE MARK
aLETTER BEITH,bLUIS,bFEARN,bSAIL,bNION,bUATH,bDAIR,bTINNE,bCOLL,bCEIRT,bMUIN,bGORT,bNGEADAL,bSTRAIF,bRUIS,bAILM,bONN
bUR,bEADHADH,bIODHADH,bEABHADH,bOR,bUILLEANN,bIFIN,bEAMHANCHOLL,bPEITH,aFEATHER MARK,aREVERSEDb
3RUNIC LETTER FEHU FEOH FE F,bV,bURUZ UR U,bYR,bY,bW,bTHURISAZ THURS THORN,bETH,bANSUZ A,bOS O,bAC A,bAESC
bLONG-BRANCH-OSS O,bSHORT-TWIG-OSSa,ba,bOE,bON,bRAIDO RAD REID R,bKAUNA,bCEN,bKAUN K,bG,bENG,bGEBO GYFU G,bGAR
bWUNJO WYNN W,bHAGLAZ H,bHAEGLa,bLONG-BRANCH-HAGALLa,bSHORT-TWIG-HAGALLa,bNAUDIZ NYD NAUD N,bSHORT-TWIG-NAUDa
bDOTTED-N,bISAZ IS ISS I,bE,bJERAN J,bGER,bLONG-BRANCH-AR AE,bSHORT-TWIG-AR A,bIWAZ EOH,bPERTHO PEORTH P
bALGIZ EOLHX,bSOWILO S,bSIGEL LONG-BRANCH-SOLa,bSHORT-TWIG-SOLa,bC,bZ,bTIWAZ TIR TYR T,bSHORT-TWIG-TYRa,bD
bBERKANAN BEORC BJARKAN B,bSHORT-TWIG-BJARKANa,bDOTTED-P,bOPEN-P,bEHWAZ EH E,bMANNAZ MAN M,bLONG-BRANCH-MADRa
bSHORT-TWIG-MADRa,bLAUKAZ LAGU LOGR L,bDOTTED-L,bINGWAZ,bING,bDAGAZ DAEG D,bOTHALAN ETHEL O,bEAR,bIOR,bCWEORTH,bCALC
bCEALC,bSTAN,bLONG-BRANCH-YR,bSHORT-TWIG-YR,bICELANDIC-YR,bQ,bX,aSINGLE PUNCTUATION,aMULTIPLEa,aCROSSa
aARLAUG SYMBOL,aTVIMADURa,aBELGTHORa,aLETTER K,bSH,bOO,bFRANKS CASKET OS,dIS,dEH,dAC,dAESC,7TAGALOG LETTER A,bI,bU
bKA,bGA,bNGA,bTA,bDA,bNA,bPA,bBA,bMA,bYA,bRA,bLA,bWA,bSA,bHA,aVOWEL SIGN I,cU,aSIGN VIRAMA,bPAMUDPOD
9aLETTER ARCHAIC RA,HANUNOO LETTER A,bI,bU,bKA,bGA,bNGA,bTA,bDA,bNA,bPA,bBA,bMA,bYA,bRA,bLA,bWA,bSA,bHA
aVOWEL SIGN I,cU,aSIGN PAMUDPOD,PHILIPPINE SINGLE PUNCTUATION,aDOUBLEa,9BUHID LETTER A,bI,bU,bKA,bGA,bNGA,bTA,bDA
bNA,bPA,bBA,bMA,bYA,bRA,bLA,bWA,bSA,bHA,aVOWEL SIGN I,cU,12TAGBANWA LETTER A,bI,bU,bKA,bGA,bNGA,bTA,bDA,bNA,bPA,bBA
bMA,bYA,1bLA,bWA,bSA,1aVOWEL SIGN I,cU,12KHMER LETTER KA,bKHA,bKO,bKHO,bNGO,bCA,bCHA,bCO,bCHO,bNYO,bDA,bTTHA,bDO
bTTHO,bNNO,bTA,bTHA,bTO,bTHO,bNO,bBA,bPHA,bPO,bPHO,bMO,bYO,bRO,bLO,bVO,bSHA,bSSO,bSA,bHA,bLA,bQA
aINDEPENDENT VOWEL QAQ,cQAA,cQI,cQII,cQU,cQUK,cQUU,cQUUV,cRY,cRYY,cLY,cLYY,cQE,cQAI,cQOO TYPE ONE,eTWO,cQAU
aVOWEL INHERENT AQ,cAA,bSIGNa,cI,cII,cY,cYY,cU,cUU,cUA,cOE,cYA,cIE,cE,cAE,cAI,cOO,cAU,aSIGN NIKAHIT,bREAHMUK
bYUUKALEAPINTU,bMUUSIKATOAN,bTRIISAP,bBANTOC,bROBAT,bTOANDAKHIAT,bKAKABAT,bAHSDA,bSAMYOK SANNYA,bVIRIAM,bCOENG
bBATHAMASAT,bKHAN,bBARIYOOSAN,bCAMNUC PII KUUH,bLEK TOO,bBEYYAL,bPHNAEK MUAN,bKOOMUUT,aCURRENCY SYMBOL RIEL
aSIGN AVAKRAHASANYA,bATTHACAN,2aDIGIT ZERO,bONE,bTWO,bTHREE,bFOUR,bFIVE,bSIX,bSEVEN,bEIGHT,bNINE
6aSYMBOL LEK ATTAK SON,dMUOY,dPII,dBEI,dBUON,dPRAM,dPRAM-MUOY,dPRAM-PII,dPRAM-BEI,dPRAM-BUON,6MONGOLIAN BIRGA
aELLIPSIS,aCOMMA,aFULL STOP,aCOLON,aFOUR DOTS,aTODO SOFT HYPHEN,aSIBE SYLLABLE BOUNDARY MARKER,aMANCHU COMMA
bFULL STOP,aNIRUGU,aFREE VARIATION SELECTOR ONE,dTWO,dTHREE,aVOWEL SEPARATOR,aFREE VARIATION SELECTOR FOUR
aDIGIT ZERO,bONE,bTWO,bTHREE,bFOUR,bFIVE,bSIX,bSEVEN,bEIGHT,bNINE,6aLETTER A,bE,bI,bO,bU,bOE,bUE,bEE,bNA,bANG,bBA
bPA,bQA,bGA,bMA,bLA,bSA,bSHA,bTA,bDA,bCHA,bJA,bYA,bRA,bWA,bFA,bKA,bKHA,bTSA,bZA,bHAA,bZRA,bLHA,bZHI,bCHI
bTODO LONG VOWEL SIGN,cE,cI,cO,cU,cOE,cUE,cANG,cBA,cPA,cQA,cGA,cMA,cTA,cDA,cCHA,cJA,cTSA,cYA,cWA,cKA,cGAA,cHAA,cJIA
cNIA,cDZA,bSIBE E,cI,cIY,cUE,cU,cANG,cKA,cGA,cHA,cPA,cSHA,cTA,cDA,cJA,cFA,cGAA,cHAA,cTSA,cZA,cRAA,cCHA,cZHA
bMANCHU I,cKA,cRA,cFA,cZHA,bCHA WITH TWO DOTS,7bALI GALI ANUSVARA ONE,dVISARGAa,dDAMARU,dUBADAMA,dINVERTEDa,dBALUDA
dTHREEa,dA,dI,dKA,dNGA,dCA,dTTA,dTTHA,dDDA,dNNA,dTA,dDA,dPA,dPHA,dSSA,dZHA,dZA,dAH,bTODO ALI GALI TA,eZHA
bMANCHU ALI GALI GHA,eNGA,eCA,eJHA,eTTA,eDDHA,eTA,eDHA,eSSA,eCYA,eZHA,eZA,bALI GALI HALF U,eYA,bMANCHU ALI GALI BHA
bALI GALI DAGALGA,bMANCHU ALI GALI LHA,5CANADIAN SYLLABICS OY,bAY,bAAY,bWAY,bPOY,bPAY,bPWOY,bTAY,bKAY,bKWAY,bMAY
bNOY,bNAY,bLAY,bSOY,bSAY,bSHOY,bSHAY,bSHWOY,bYOY,bYAY,bRAY,bNWI,bOJIBWAYa,bNWII,bOJIBWAYa,bNWO,bOJIBWAYa,bNWOO
bOJIBWAYa,bRWEE,bRWI,bRWII,bRWO,bRWOO,bRWA,bOJIBWAY P,cT,cK,cC,cM,cN,cS,cSH,bEASTERN W,bWESTERNa,bFINAL SMALL RING
cRAISED DOT,bR-CREE RWE,bWEST-CREE LOO,cLAA,bTHWE,bTHWA,bTTHWE,bTTHOO,bTTHAA,bTLHWE,bTLHOO,bSAYISI SHWE,cSHOO,cHOO
bCARRIER GWU,cDENE GEE,cGAA,cGWA,bSAYISI JUU,bCARRIER JWA,bBEAVER DENE L,dR,bCARRIER DENTAL S
10LIMBU VOWEL-CARRIER LETTER,aLETTER KA,bKHA,bGA,bGHA,bNGA,bCA,bCHA,bJA,bJHA,bYAN,bTA,bTHA,bDA,bDHA,bNA,bPA,bPHA,bBA
bBHA,bMA,bYA,bRA,bLA,bWA,bSHA,bSSA,bSA,bHA,bGYAN,bTRA,1aVOWEL SIGN A,cI,cU,cEE,cAI,cOO,cAU,cE,cO
aSUBJOINED LETTER YA,cRA,cWA,4aSMALL LETTER KA,cNGA,cANUSVARA,cTA,cNA,cPA,cMA,cRA,cLA,aSIGN MUKPHRENG,bKEMPHRENG
bSA-I,4bLOO,3aEXCLAMATION MARK,aQUESTIONa,aDIGIT ZERO,bONE,bTWO,bTHREE,bFOUR,bFIVE,bSIX,bSEVEN,bEIGHT,bNINE
TAI LE LETTER KA,cXA,cNGA,cTSA,cSA,cYA,cTA,cTHA,cLA,cPA,cPHA,cMA,cFA,cVA,cHA,cQA,cKHA,cTSHA,cNA,cA,cI,cEE,cEH,cU,cOO
cO,cUE,cE,cAUE,cAI,2cTONE-2,cTONE-3,cTONE-4,cTONE-5,cTONE-6,11NEW TAI LUE LETTER HIGH QA,dLOWa,dHIGH KA,eXA,eNGA
dLOW KA,eXA,eNGA,dHIGH TSA,eSA,eYA,dLOW TSA,eSA,eYA,dHIGH TA,eTHA,eNA,dLOW TA,eTHA,eNA,dHIGH PA,ePHA,eMA,dLOW PA
ePHA,eMA,dHIGH FA,eVA,eLA,dLOW FA,eVA,eLA,dHIGH HA,eDA,eBA,dLOW HA,eDA,eBA,dHIGH KVA,eXVA,dLOW KVA,eXVA,dHIGH SUA
dLOWa,4cVOWEL SIGN VOWEL SHORTENER,eAA,eII,eU,eUU,eE,eAE,eO,eOA,eUE,eAY,eAAY,eUY,eOY,eOAY,eUEY,eIY,cLETTER FINAL V
eNG,eN,eM,eK,eD,eB,cTONE MARK-1,dMARK-2,6cDIGIT ZERO,dONE,dTWO,dTHREE,dFOUR,dFIVE,dSIX,dSEVEN,dEIGHT,dNINE
cTHAM DIGIT ONE,3cSIGN LAE,dLAEV,KHMER SYMBOL PATHAMASAT,bMUOY KOET,bPIIa,bBEIa,bBUONa,bPRAMa,bPRAM-MUOYa,bPRAM-PIIa
bPRAM-BEIa,bPRAM-BUONa,bDAPa,bDAP-MUOYa,bDAP-PIIa,bDAP-BEIa,bDAP-BUONa,bDAP-PRAMa,bTUTEYASAT,bMUOY ROC,bPIIa,bBEIa
bBUONa,bPRAMa,bPRAM-MUOYa,bPRAM-PIIa,bPRAM-BEIa,bPRAM-BUONa,bDAPa,bDAP-MUOYa,bDAP-PIIa,bDAP-BEIa,bDAP-BUONa
bDAP-PRAMa,BUGINESE LETTER KA,bGA,bNGA,bNGKA,bPA,bBA,bMA,bMPA,bTA,bDA,bNA,bNRA,bCA,bJA,bNYA,bNYCA,bYA,bRA,bLA,bVA
bSA,bA,bHA,aVOWEL SIGN I,cU,cE,cO,cAE,2aPALLAWA,aEND OF SECTION,TAI THAM LETTER HIGH KA,dKHA,dKXA,cLOW KA,dKXA,dKHA
cNGA,cHIGH CA,dCHA,cLOW CA,dSA,dCHA,cNYA,cRATA,cHIGH RATHA,cDA,cLOW RATHA,cRANA,cHIGH TA,dTHA,cLOW TA,dTHA,cNA,cBA
cHIGH PA,dPHA,dFA,cLOW PA,dFA,dPHA,cMA,cLOW YA,cHIGHa,cRA,cRUE,cLA,cLUE,cWA,cHIGH SHA,dSSA,dSA,dHA,cLLA,cA,cLOW HA
cI,cII,cU,cUU,cEE,cOO,cLAE,cGREAT SA,bCONSONANT SIGN MEDIAL RA,eLA,dLA TANG LAI,bSIGN MAI KANGa
bCONSONANT SIGN FINAL NGA,dLOW PA,dHIGH RATHA ORb,dMA,dBA,dSA,1bSIGN SAKOT,bVOWEL SIGN A,dMAI SAT,dAA,dTALLa,dI,dII
dUE,dUUE,dU,dUU,dO,dOA BELOW,dOY,dE,dAE,dOO,dAI,dTHAMa,dOA ABOVE,bSIGN MAI KANG,cTONE-1,cTONE-2,cKHUEN TONE-3
dTONE-4,dTONE-5,cRA HAAM,cMAI SAM,cKHUEN-LUE KARAN,2bCOMBINING CRYPTOGRAMMIC DOT,bHORA DIGIT ZERO,dONE,dTWO,dTHREE
dFOUR,dFIVE,dSIX,dSEVEN,dEIGHT,dNINE,6bTHAM DIGIT ZERO,dONE,dTWO,dTHREE,dFOUR,dFIVE,dSIX,dSEVEN,dEIGHT,dNINE
6bSIGN WIANG,cWIANGWAAK,cSAWAN,cKEOW,cHOY,cDOKMAI,cREVERSED ROTATED RANA,cMAI YAMOK,cKAAN,cKAANKUU,cSATKAAN
cSATKAANKUU,cHANG,cCAANG,2COMBINING DOUBLED CIRCUMFLEX ACCENT,aDIAERESIS-RING,aINFINITY,aDOWNWARDS ARROW,aTRIPLE DOT
aX-X BELOW,aWIGGLY LINEa,aOPEN MARKa,aDOUBLEc,aLIGHT CENTRALIZATION STROKEa,aSTRONGc,aPARENTHESES ABOVE,aDOUBLEb
aPARENTHESES BELOW,bOVERLAY,aLATIN SMALL LETTER W BELOW,dTURNEDb,aLEFT PARENTHESIS ABOVE LEFT
aRIGHT PARENTHESIS ABOVE RIGHT,aLEFT PARENTHESIS BELOW LEFT,aRIGHT PARENTHESIS BELOW RIGHT,aSQUARE BRACKETS ABOVE
aNUMBER SIGNa,aINVERTED DOUBLE ARCHa,aPLUS SIGNa,aDOUBLEc,dBELOW,aTRIPLE ACUTE ACCENT,aLATIN SMALL LETTER INSULAR G
eR,eT,49BALINESE SIGN ULU RICEM,cCANDRA,bCECEK,bSURANG,bBISAH,aLETTER AKARA,cTEDUNG,bIKARA,cTEDUNG,bUKARA,cTEDUNG
bRA REPA,dTEDUNG,bLA LENGA,dTEDUNG,bEKARA,bAIKARA,bOKARA,cTEDUNG,bKA,cMAHAPRANA,bGA,cGORA,bNGA,bCA,cLACA,bJA,cJERA
bNYA,bTA LATIK,cMURDA MAHAPRANA,bDA MURDA ALPAPRANA,dMAHAPRANA,bNA RAMBAT,bTA,cTAWA,bDA,cMADU,bNA,bPA,cKAPAL,bBA
cKEMBANG,bMA,bYA,bRA,bLA,bWA,bSA SAGA,cSAPA,c,bHA,aSIGN REREKAN,aVOWEL SIGN TEDUNG,cULU,dSARI,cSUKU,dILUT,cRA REPA
eTEDUNG,cLA LENGA,eTEDUNG,cTALING,dREPA,dTEDUNG,dREPAa,cPEPET,dTEDUNG,aADEG ADEG,aLETTER KAF SASAK,bKHOTa,bTZIRa
bEFa,bVEa,bZALa,bASYURAa,bARCHAIC JNYA,3aDIGIT ZERO,bONE,bTWO,bTHREE,bFOUR,bFIVE,bSIX,bSEVEN,bEIGHT,bNINE,aPANTI
aPAMADA,aWINDU,aCARIK PAMUNGKAH,bSIKI,bPAREREN,aPAMENENG,aMUSICAL SYMBOL DONG,cDENG,cDUNG,cDANG,dSURANG,cDING,cDAENG
cDEUNG,cDAING,cDANG GEDE,cCOMBINING TEGEH,dENDEP,dKEMPUL,dKEMPLI,dJEGOGAN,dKEMPUL WITHa,dKEMPLIb,dBENDE,dGONG
cRIGHT-HAND OPEN DUG,eDAG,dCLOSED TUK,eTAK,cLEFT-HAND OPEN PANG,ePUNG,dCLOSED PLAK,ePLUK,dOPEN PING,aPANTI LANTANG
aPAMADAa,1SUNDANESE SIGN PANYECEK,bPANGLAYAR,bPANGWISAD,aLETTER A,bI,bU,bAE,bO,bE,bEU,bKA,bQA,bGA,bNGA,bCA,bJA,bZA
bNYA,bTA,bDA,bNA,bPA,bFA,bVA,bBA,bMA,bYA,bRA,bLA,bWA,bSA,bXA,bHA,aCONSONANT SIGN PAMINGKAL,cPANYAKRA,cPANYIKU
aVOWEL SIGN PANGHULU,cPANYUKU,cPANAELAENG,cPANOLONG,cPAMEPET,cPANEULEUNG,aSIGN PAMAAEH,bVIRAMA
aCONSONANT SIGN PASANGAN MA,dWA,aLETTER KHA,bSYA,aDIGIT ZERO,bONE,bTWO,bTHREE,bFOUR,bFIVE,bSIX,bSEVEN,bEIGHT,bNINE
aAVAGRAHA,aLETTER REU,bLEU,bBHA,bFINAL K,cM,BATAK LETTER A,bSIMALUNGUNa,bHA,bSIMALUNGUNa,bMANDAILINGa,bBA,bKAROa,bPA
bSIMALUNGUNa,bNA,bMANDAILINGa,bWA,bSIMALUNGUNa,bPAKPAKa,bGA,bSIMALUNGUNa,bJA,bDA,bRA,bSIMALUNGUNa,bMA,bSIMALUNGUNa
bSOUTHERN TA,bNORTHERNa,bSA,bSIMALUNGUNa,bMANDAILINGa,bYA,bSIMALUNGUNa,bNGA,bLA,bSIMALUNGUNa,bNYA,bCA,bNDA,bMBA,bI
bU,aSIGN TOMPI,aVOWEL SIGN E,cPAKPAKa,cEE,cI,cKAROa,cO,cKAROa,cU,dFOR SIMALUNGUN SA,aCONSONANT SIGN NG,cH,aPANGOLAT
aPANONGONAN,8aSYMBOL BINDU NA METEK,cPINARBORAS,cJUDUL,cPANGOLAT,LEPCHA LETTER KA,bKLA,bKHA,bGA,bGLA,bNGA,bCA,bCHA
bJA,bNYA,bTA,bTHA,bDA,bNA,bPA,bPLA,bPHA,bFA,bFLA,bBA,bBLA,bMA,bMLA,bTSA,bTSHA,bDZA,bYA,bRA,bLA,bHA,bHLA,bVA,bSA,bSHA
bWA,bA,aSUBJOINED LETTER YA,cRA,aVOWEL SIGN AA,cI,cO,cOO,cU,cUU,cE,aCONSONANT SIGN K,cM,cL,cN,cP,cR,cT,cNYIN-DO
cKANG,aSIGN RAN,bNUKTA,3aPUNCTUATION TA-ROL,bNYET THYOOMa,bCER-WA,bTSHOOKa,c,aDIGIT ZERO,bONE,bTWO,bTHREE,bFOUR
bFIVE,bSIX,bSEVEN,bEIGHT,bNINE,3aLETTER TTA,bTTHA,bDDA,OL CHIKI DIGIT ZERO,cONE,cTWO,cTHREE,cFOUR,cFIVE,cSIX,cSEVEN
cEIGHT,cNINE,bLETTER LA,cAT,cAG,cANG,cAL,cLAA,cAAK,cAAJ,cAAM,cAAW,cLI,cIS,cIH,cINY,cIR,cLU,cUC,cUD,cUNN,cUY,cLE,cEP
cEDD,cEN,cERR,cLO,cOTT,cOB,cOV,cOH,bMU TTUDDAG,bGAAHLAA TTUDDAAG,bMU-GAAHLAAa,bRELAA,bPHAARKAA,bAHAD
bPUNCTUATION MUCAAD,cDOUBLEa,CYRILLIC SMALL LETTER ROUNDED VE,cLONG-LEGGED DE,cNARROW O,cWIDE ES,cTALL TE
cTHREE-LEGGEDa,cTALL HARD SIGN,dYAT,cUNBLENDED UK,7GEORGIAN MTAVRULI CAPITAL LETTER AN,dBAN,dGAN,dDON,dEN,dVIN,dZEN
dTAN,dIN,dKAN,dLAS,dMAN,dNAR,dON,dPAR,dZHAR,dRAE,dSAN,dTAR,dUN,dPHAR,dKHAR,dGHAN,dQAR,dSHIN,dCHIN,dCAN,dJIL,dCIL
dCHAR,dXAN,dJHAN,dHAE,dHE,dHIE,dWE,dHAR,dHOE,dFI,dYN,dELIFI,dTURNED GAN,dAIN,2dAEN,dHARD SIGN,dLABIALa
SUNDANESE PUNCTUATION BINDU SURYA,cPANGLONG,cPURNAMA,cCAKRA,cLEU SATANGA,cKAa,cDAa,cBAa,8VEDIC TONE KARSHANA,bSHARA
bPRENKHA,aSIGN NIHSHVASA,bYAJURVEDIC MIDLINE SVARITA,aTONE YAJURVEDIC AGGRAVATED INDEPENDENTa,cb,cKATHAKAb
bCANDRA BELOW,bYAJURVEDIC KATHAKA INDEPENDENT SVARITA SCHROEDER,bDOUBLE SVARITA,bTRIPLEa,bKATHAKA ANUDATTA
bDOT BELOW,bTWO DOTSa,bTHREEb,bRIGVEDIC KASHMIRI INDEPENDENT SVARITA,bATHARVAVEDICb,aSIGN VISARGAa,cUDATTA
bREVERSEDb,bVISARGA ANUDATTA,bREVERSEDb,bVISARGA UDATTA WITH TAIL,cANUDATTAb,bANUSVARA ANTARGOMUKHA,cBAHIRGOMUKHA
cVAMAGOMUKHA,dWITH TAIL,bTIRYAK,bHEXIFORM LONG ANUSVARA,bb,bRTHANGb,bANUSVARA UBHAYATO MUKHA,bARDHAVISARGA,bROTATEDa
aTONE CANDRA ABOVE,aSIGN JIHVAMULIYA,bUPADHMANIYA,bATIKRAMA,aTONE RING ABOVE,bDOUBLEb
aSIGN DOUBLE ANUSVARA ANTARGOMUKHA,5LATIN LETTER SMALL CAPITAL A,dAE,aSMALL LETTER TURNEDa
aLETTER SMALL CAPITAL BARRED B,dC,dD,dETH,dE,aSMALL LETTER TURNED OPENa,dI,aLETTER SMALL CAPITAL J,dK,dL WITH STROKE
dM,dREVERSED N,dO,dOPENa,aSMALL LETTER SIDEWAYSa,dOPENa,dO WITH STROKE,cTURNED OE,aLETTER SMALL CAPITAL OU
aSMALL LETTER TOP HALF O,cBOTTOMb,aLETTER SMALL CAPITAL P,dREVERSED R,dTURNEDa,dT,dU,aSMALL LETTER SIDEWAYSa
dDIAERESIZEDa,dTURNED M,aLETTER SMALL CAPITAL V,dW,dZ,dEZH,bVOICED LARYNGEAL SPIRANT,bAIN
GREEK LETTER SMALL CAPITAL GAMMA,dLAMDA,dPI,dRHO,dPSI,CYRILLIC LETTER SMALL CAPITAL EL,MODIFIER LETTER CAPITAL A,cAE
cB,cBARREDa,cD,cE,cREVERSEDa,cG,cH,cI,cJ,cK,cL,cM,cN,cREVERSEDa,cO,cOU,cP,cR,cT,cU,cW,bSMALL A,cTURNEDa,cALPHA
cTURNED AE,cB,cD,cE,cSCHWA,cOPEN E,cTURNEDb,cG,cTURNED I,cK,cM,cENG,cO,cOPENa,cTOP HALFa,cBOTTOMb,cP,cT,cU
cSIDEWAYSa,cTURNED M,cV,cAIN,cBETA,cGREEK GAMMA,cDELTA,cGREEK PHI,cCHI,LATIN SUBSCRIPT SMALL LETTER I,dR,dU,dV
GREEK SUBSCRIPT SMALL LETTER BETA,dGAMMA,dRHO,dPHI,dCHI,LATIN SMALL LETTER UE,cB WITH MIDDLE TILDE,cDc,cFc,cMc,cNc
cPc,cRc,eFISHHOOK ANDb,cS WITHb,cTc,cZc,cTURNED G,MODIFIER LETTER CYRILLIC EN,LATIN SMALL LETTER INSULAR G
cTH WITH STRIKETHROUGH,bCAPITAL LETTER I WITH STROKE,bLETTER IOTAb,cPb,bCAPITAL LETTER Ub,bLETTER UPSILONb
cB WITH PALATAL HOOK,cDc,cFc,cGc,cKc,cLc,cMc,cNc,cPc,cRc,cSc,cESHc,cVc,cXc,cZc,cA WITH RETROFLEXa,cALPHAc
cD WITH HOOK AND TAIL,cE WITH RETROFLEX HOOK,cOPENd,cREVERSEDe,cSCHWAc,cIc,cOPEN Oc,cESHc,cUc,cEZHc
MODIFIER LETTER SMALL TURNED ALPHA,cC,dWITH CURL,cETH,cREVERSED OPEN E,cF,cDOTLESS J WITH STROKE,cSCRIPT G,cTURNED H
cI WITH STROKE,cIOTA,cCAPITAL I,eWITH STROKE,cJ WITH CROSSED-TAIL,cL WITH RETROFLEX HOOK,ePALATALa,cCAPITAL L
cM WITH HOOK,cTURNED M WITH LONG LEG,cN WITH LEFT HOOK,eRETROFLEXa,cCAPITAL N,cBARRED O,cPHI,cS WITH HOOK,cESH
cT WITH PALATAL HOOK,cU BAR,cUPSILON,cCAPITAL U,cV WITH HOOK,cTURNED V,cZ,dWITH RETROFLEX HOOK,eCURL,cEZH,cTHETA
COMBINING DOTTED GRAVE ACCENT,bACUTEa,aSNAKE BELOW,aSUSPENSION MARK,aMACRON-ACUTE,aGRAVE-MACRON,aMACRON-GRAVE
aACUTE-MACRON,aGRAVE-ACUTE-GRAVE,aACUTE-GRAVE-ACUTE,aLATIN SMALL LETTER R BELOW,aBREVE-MACRON,aMACRON-BREVE
aDOUBLE CIRCUMFLEX ABOVE,aOGONEKa,aZIGZAG BELOW,aISa,aUR ABOVE,aUSa,aLATIN SMALL LETTER FLATTENED OPEN Aa,dAE,dAO
dAV,dC CEDILLA,dINSULAR D,dETH,dG,bLETTER SMALL CAPITALa,bSMALL LETTER K,dL,bLETTER SMALL CAPITALa,eM
bSMALL LETTER N,bLETTER SMALL CAPITALa,eR,bSMALL LETTER R ROTUNDA,dS,dLONGa,dZ,dALPHA,dB,dBETA,dSCHWA,dF
dL WITH DOUBLE MIDDLE TILDE,dO WITH LIGHT CENTRALIZATION STROKE,dP,dESH,dU WITH LIGHT CENTRALIZATION STROKE,dW
dA WITH DIAERESIS,dOb,dUb,aUP TACK ABOVE,aKAVYKA ABOVE RIGHT,cLEFT,aDOTb,aWIDE INVERTED BRIDGE BELOW,aDOT BELOW LEFT
aDELETION MARK,aDOUBLE INVERTED BREVE BELOW,aALMOST EQUAL TOa,aLEFT ARROWHEAD ABOVE
aRIGHT ARROWHEAD AND DOWN ARROWHEAD BELOW,LATIN CAPITAL LETTER A WITH RINGa,aSMALLe,aCAPITAL LETTER B WITH DOT ABOVE
aSMALLe,aCAPITAL LETTER B WITH DOT BELOW,aSMALLe,aCAPITAL LETTER B WITH LINEa,aSMALLe
aCAPITAL LETTER C WITH CEDILLA AND ACUTE,aSMALLf,aCAPITAL LETTER D WITH DOT ABOVE,aSMALLe
aCAPITAL LETTER D WITH DOT BELOW,aSMALLe,aCAPITAL LETTER D WITH LINEa,aSMALLe,aCAPITAL LETTER D WITH CEDILLA,aSMALLd
aCAPITAL LETTER D WITH CIRCUMFLEX BELOW,aSMALLe,aCAPITAL LETTER E WITH MACRON AND GRAVE,aSMALLf
aCAPITAL LETTER E WITH MACRON AND ACUTE,aSMALLf,aCAPITAL LETTER E WITH CIRCUMFLEX BELOW,aSMALLe
aCAPITAL LETTER E WITH TILDEa,aSMALLe,aCAPITAL LETTER E WITH CEDILLA AND BREVE,aSMALLf
aCAPITAL LETTER F WITH DOT ABOVE,aSMALLe,aCAPITAL LETTER G WITH MACRON,aSMALLd,aCAPITAL LETTER H WITH DOT ABOVE
aSMALLe,aCAPITAL LETTER H WITH DOT BELOW,aSMALLe,aCAPITAL LETTER H WITH DIAERESIS,aSMALLd
aCAPITAL LETTER H WITH CEDILLA,aSMALLd,aCAPITAL LETTER H WITH BREVE BELOW,aSMALLe,aCAPITAL LETTER I WITH TILDEa
aSMALLe,aCAPITAL LETTER I WITH DIAERESIS AND ACUTE,aSMALLf,aCAPITAL LETTER K WITHa,aSMALLd
aCAPITAL LETTER K WITH DOT BELOW,aSMALLe,aCAPITAL LETTER K WITH LINEa,aSMALLe,aCAPITAL LETTER L WITH DOTa,aSMALLe
aCAPITAL LETTER L WITH DOT BELOW AND MACRON,aSMALLg,aCAPITAL LETTER L WITH LINE BELOW,aSMALLe
aCAPITAL LETTER L WITH CIRCUMFLEXa,aSMALLe,aCAPITAL LETTER M WITH ACUTE,aSMALLd,aCAPITAL LETTER M WITH DOT ABOVE
aSMALLe,aCAPITAL LETTER M WITH DOT BELOW,aSMALLe,aCAPITAL LETTER N WITH DOT ABOVE,aSMALLe
aCAPITAL LETTER N WITH DOT BELOW,aSMALLe,aCAPITAL LETTER N WITH LINEa,aSMALLe,aCAPITAL LETTER N WITH CIRCUMFLEXa
aSMALLe,aCAPITAL LETTER O WITH TILDE AND ACUTE,aSMALLf,aCAPITAL LETTER O WITH TILDE AND DIAERESIS,aSMALLf
aCAPITAL LETTER O WITH MACRON AND GRAVE,aSMALLf,aCAPITAL LETTER O WITH MACRON AND ACUTE,aSMALLf
aCAPITAL LETTER P WITHa,aSMALLd,aCAPITAL LETTER P WITH DOT ABOVE,aSMALLe,aCAPITAL LETTER Rc,aSMALLe
aCAPITAL LETTER R WITH DOT BELOW,aSMALLe,aCAPITAL LETTER R WITH DOT BELOW AND MACRON,aSMALLg
aCAPITAL LETTER R WITH LINE BELOW,aSMALLe,aCAPITAL LETTER S WITH DOT ABOVE,aSMALLe,aCAPITAL LETTER S WITH DOT BELOW
aSMALLe,aCAPITAL LETTER S WITH ACUTE AND DOT ABOVE,aSMALLg,aCAPITAL LETTER S WITH CARONc,aSMALLg
aCAPITAL LETTER S WITH DOT BELOWc,aSMALLh,aCAPITAL LETTER T WITHb,aSMALLe,aCAPITAL LETTER T WITH DOT BELOW,aSMALLe
aCAPITAL LETTER T WITH LINEa,aSMALLe,aCAPITAL LETTER T WITH CIRCUMFLEXa,aSMALLe,aCAPITAL LETTER U WITH DIAERESISa
aSMALLe,aCAPITAL LETTER U WITH TILDEa,aSMALLe,aCAPITAL LETTER U WITH CIRCUMFLEXa,aSMALLe
aCAPITAL LETTER U WITH TILDE AND ACUTE,aSMALLf,aCAPITAL LETTER U WITH MACRON AND DIAERESIS,aSMALLf
aCAPITAL LETTER V WITH TILDE,aSMALLd,aCAPITAL LETTER V WITH DOT BELOW,aSMALLe,aCAPITAL LETTER W WITH GRAVE,aSMALLd
aCAPITAL LETTER W WITH ACUTE,aSMALLd,aCAPITAL LETTER W WITH DIAERESIS,aSMALLd,aCAPITAL LETTER W WITH DOT ABOVE
aSMALLe,aCAPITAL LETTER W WITH DOT BELOW,aSMALLe,aCAPITAL LETTER X WITH DOT ABOVE,aSMALLe
aCAPITAL LETTER X WITH DIAERESIS,aSMALLd,aCAPITAL LETTER Y WITH DOT ABOVE,aSMALLe,aCAPITAL LETTER Z WITH CIRCUMFLEX
aSMALLd,aCAPITAL LETTER Z WITH DOT BELOW,aSMALLe,aCAPITAL LETTER Z WITH LINEa,aSMALLe,cHc,cT WITH DIAERESIS
cW WITH RING ABOVE,cYc,cA WITH RIGHT HALF RING,cLONG S WITH DOT ABOVE,fDIAGONAL STROKE,fHIGHa
aCAPITAL LETTER SHARP S,aSMALL LETTER DELTA,aCAPITAL LETTER A WITH DOT BELOW,aSMALLe
aCAPITAL LETTER A WITH HOOK ABOVE,aSMALLe,aCAPITAL LETTER A WITH CIRCUMFLEX AND ACUTE,aSMALLf
aCAPITAL LETTER A WITH CIRCUMFLEX AND GRAVE,aSMALLf,aCAPITAL LETTER A WITH CIRCUMFLEX AND HOOK ABOVE,aSMALLg
aCAPITAL LETTER A WITH CIRCUMFLEX AND TILDE,aSMALLf,aCAPITAL LETTER A WITH CIRCUMFLEX AND DOT BELOW,aSMALLg
aCAPITAL LETTER A WITH BREVE AND ACUTE,aSMALLf,aCAPITAL LETTER A WITH BREVE AND GRAVE,aSMALLf
aCAPITAL LETTER A WITH BREVE AND HOOK ABOVE,aSMALLg,aCAPITAL LETTER A WITH BREVE AND TILDE,aSMALLf
aCAPITAL LETTER A WITH BREVE AND DOT BELOW,aSMALLg,aCAPITAL LETTER E WITHb,aSMALLe,aCAPITAL LETTER E WITH HOOK ABOVE
aSMALLe,aCAPITAL LETTER E WITH TILDE,aSMALLd,aCAPITAL LETTER E WITH CIRCUMFLEX AND ACUTE,aSMALLf
aCAPITAL LETTER E WITH CIRCUMFLEX AND GRAVE,aSMALLf,aCAPITAL LETTER E WITH CIRCUMFLEX AND HOOK ABOVE,aSMALLg
aCAPITAL LETTER E WITH CIRCUMFLEX AND TILDE,aSMALLf,aCAPITAL LETTER E WITH CIRCUMFLEX AND DOT BELOW,aSMALLg
aCAPITAL LETTER I WITH HOOK ABOVE,aSMALLe,aCAPITAL LETTER I WITH DOT BELOW,aSMALLe,aCAPITAL LETTER Oc,aSMALLe
aCAPITAL LETTER O WITH HOOK ABOVE,aSMALLe,aCAPITAL LETTER O WITH CIRCUMFLEX AND ACUTE,aSMALLf
aCAPITAL LETTER O WITH CIRCUMFLEX AND GRAVE,aSMALLf,aCAPITAL LETTER O WITH CIRCUMFLEX AND HOOK ABOVE,aSMALLg
aCAPITAL LETTER O WITH CIRCUMFLEX AND TILDE,aSMALLf,aCAPITAL LETTER O WITH CIRCUMFLEX AND DOT BELOW,aSMALLg
aCAPITAL LETTER O WITH HORN AND ACUTE,aSMALLf,aCAPITAL LETTER O WITH HORN AND GRAVE,aSMALLf
aCAPITAL LETTER O WITH HORN AND HOOK ABOVE,aSMALLg,aCAPITAL LETTER O WITH HORN AND TILDE,aSMALLf
aCAPITAL LETTER O WITH HORN AND DOT BELOW,aSMALLg,aCAPITAL LETTER U WITHb,aSMALLe,aCAPITAL LETTER U WITH HOOK ABOVE
aSMALLe,aCAPITAL LETTER U WITH HORN AND ACUTE,aSMALLf,aCAPITAL LETTER U WITH HORN AND GRAVE,aSMALLf
aCAPITAL LETTER U WITH HORN AND HOOK ABOVE,aSMALLg,aCAPITAL LETTER U WITH HORN AND TILDE,aSMALLf
aCAPITAL LETTER U WITH HORN AND DOT BELOW,aSMALLg,aCAPITAL LETTER Y WITH GRAVE,aSMALLd
aCAPITAL LETTER Y WITH DOT BELOW,aSMALLe,aCAPITAL LETTER Y WITH HOOK ABOVE,aSMALLe,aCAPITAL LETTER Y WITH TILDE
aSMALLd,aCAPITAL LETTER MIDDLE-WELSH LL,aSMALLc,aCAPITAL LETTER MIDDLE-WELSH V,aSMALLc,aCAPITAL LETTER Y WITH LOOP
aSMALLd,GREEK SMALL LETTER ALPHA WITH PSILI,eDASIA,ePSILI AND VARIA,eDASIAb,ePSILI AND OXIA,eDASIAb
ePSILI AND PERISPOMENI,eDASIAb,aCAPITAL LETTER ALPHA WITH PSILI,eDASIA,ePSILI AND VARIA,eDASIAb,ePSILI AND OXIA
eDASIAb,ePSILI AND PERISPOMENI,eDASIAb,aSMALL LETTER EPSILON WITH PSILI,eDASIA,ePSILI AND VARIA,eDASIAb
ePSILI AND OXIA,eDASIAb,2aCAPITAL LETTER EPSILON WITH PSILI,eDASIA,ePSILI AND VARIA,eDASIAb,ePSILI AND OXIA,eDASIAb
2aSMALL LETTER ETA WITH PSILI,eDASIA,ePSILI AND VARIA,eDASIAb,ePSILI AND OXIA,eDASIAb,ePSILI AND PERISPOMENI,eDASIAb
aCAPITAL LETTER ETA WITH PSILI,eDASIA,ePSILI AND VARIA,eDASIAb,ePSILI AND OXIA,eDASIAb,ePSILI AND PERISPOMENI
eDASIAb,aSMALL LETTER IOTA WITH PSILI,eDASIA,ePSILI AND VARIA,eDASIAb,ePSILI AND OXIA,eDASIAb,ePSILI AND PERISPOMENI
eDASIAb,aCAPITAL LETTER IOTA WITH PSILI,eDASIA,ePSILI AND VARIA,eDASIAb,ePSILI AND OXIA,eDASIAb
ePSILI AND PERISPOMENI,eDASIAb,aSMALL LETTER OMICRON WITH PSILI,eDASIA,ePSILI AND VARIA,eDASIAb,ePSILI AND OXIA
eDASIAb,2aCAPITAL LETTER OMICRON WITH PSILI,eDASIA,ePSILI AND VARIA,eDASIAb,ePSILI AND OXIA,eDASIAb
2aSMALL LETTER UPSILON WITH PSILI,eDASIA,ePSILI AND VARIA,eDASIAb,ePSILI AND OXIA,eDASIAb,ePSILI AND PERISPOMENI
eDASIAb,1aCAPITAL LETTER UPSILON WITH DASIA,1fAND VARIA,1gOXIA,1gPERISPOMENI,aSMALL LETTER OMEGA WITH PSILI,eDASIA
ePSILI AND VARIA,eDASIAb,ePSILI AND OXIA,eDASIAb,ePSILI AND PERISPOMENI,eDASIAb,aCAPITAL LETTER OMEGA WITH PSILI
eDASIA,ePSILI AND VARIA,eDASIAb,ePSILI AND OXIA,eDASIAb,ePSILI AND PERISPOMENI,eDASIAb
aSMALL LETTER ALPHA WITH VARIA,eOXIA,cEPSILON WITH VARIA,eOXIA,cETA WITH VARIA,eOXIA,cIOTA WITH VARIA,eOXIA
cOMICRON WITH VARIA,eOXIA,cUPSILON WITH VARIA,eOXIA,cOMEGA WITH VARIA,eOXIA,2cALPHA WITH PSILI AND YPOGEGRAMMENI
eDASIAb,ePSILI AND VARIAb,eDASIAd,ePSILI AND OXIAb,eDASIAd,ePSILI AND PERISPOMENIb,eDASIAd
aCAPITAL LETTER ALPHA WITH PSILI AND PROSGEGRAMMENI,eDASIAb,ePSILI AND VARIAb,eDASIAd,ePSILI AND OXIAb,eDASIAd
ePSILI AND PERISPOMENIb,eDASIAd,aSMALL LETTER ETA WITH PSILI AND YPOGEGRAMMENI,eDASIAb,ePSILI AND VARIAb,eDASIAd
ePSILI AND OXIAb,eDASIAd,ePSILI AND PERISPOMENIb,eDASIAd,aCAPITAL LETTER ETA WITH PSILI AND PROSGEGRAMMENI,eDASIAb
ePSILI AND VARIAb,eDASIAd,ePSILI AND OXIAb,eDASIAd,ePSILI AND PERISPOMENIb,eDASIAd
aSMALL LETTER OMEGA WITH PSILI AND YPOGEGRAMMENI,eDASIAb,ePSILI AND VARIAb,eDASIAd,ePSILI AND OXIAb,eDASIAd
ePSILI AND PERISPOMENIb,eDASIAd,aCAPITAL LETTER OMEGA WITH PSILI AND PROSGEGRAMMENI,eDASIAb,ePSILI AND VARIAb
eDASIAd,ePSILI AND OXIAb,eDASIAd,ePSILI AND PERISPOMENIb,eDASIAd,aSMALL LETTER ALPHA WITH VRACHY,eMACRON
eVARIA AND YPOGEGRAMMENI,ea,eOXIA ANDa,1ePERISPOMENI,fAND YPOGEGRAMMENI,aCAPITAL LETTER ALPHA WITH VRACHY,eMACRON
eVARIA,eOXIA,ePROSGEGRAMMENI,aKORONIS,aPROSGEGRAMMENI,aPSILI,aPERISPOMENI,aDIALYTIKA ANDa
aSMALL LETTER ETA WITH VARIA AND YPOGEGRAMMENI,ea,eOXIA ANDa,1ePERISPOMENI,fAND YPOGEGRAMMENI
aCAPITAL LETTER EPSILON WITH VARIA,eOXIA,cETA WITH VARIA,eOXIA,ePROSGEGRAMMENI,aPSILI AND VARIA,cOXIA,cPERISPOMENI
aSMALL LETTER IOTA WITH VRACHY,eMACRON,eDIALYTIKA AND VARIA,gOXIA,2ePERISPOMENI,eDIALYTIKA ANDa
aCAPITAL LETTER IOTA WITH VRACHY,eMACRON,eVARIA,eOXIA,1aDASIA AND VARIA,cOXIA,cPERISPOMENI
aSMALL LETTER UPSILON WITH VRACHY,eMACRON,eDIALYTIKA AND VARIA,gOXIA,cRHO WITH PSILI,eDASIA
cUPSILON WITH PERISPOMENI,eDIALYTIKA ANDa,aCAPITAL LETTER UPSILON WITH VRACHY,eMACRON,eVARIA,eOXIA,cRHO WITH DASIA
aDIALYTIKA AND VARIA,cOXIA,aVARIA,2aSMALL LETTER OMEGA WITH VARIA AND YPOGEGRAMMENI,ea,eOXIA ANDa,1ePERISPOMENI
fAND YPOGEGRAMMENI,aCAPITAL LETTER OMICRON WITH VARIA,eOXIA,cOMEGA WITH VARIA,eOXIA,ePROSGEGRAMMENI,aOXIA,aDASIA"

end Text
end RepoSurvey
