import ComponentInliner.Text.Basic

/-!
# Names of code points

Code points may be given by their names in version 14 of the Unicode standard or by one of their
aliases. Names are made of capital letters, digits, spaces and hyphens. Most of them stand in a
table, in which case does not matter. The names of some ideographs end with the number of the code
point, and those of Korean syllables are put together from the names of their letters.
-/

namespace ComponentInliner.CodePointName

/--
The names of the table. Each is written as a small letter and a rest: the letter says how many words
are those of the name before it, from `a` for none, and a word goes up to a space or a hyphen. Names
are for one code point after the other; an equals sign and a hexadecimal number say which comes
next. Line feeds mean nothing.
-/
def table : String := "
=20aSPACEaEXCLAMATION MARKaQUOTATION MARKaNUMBER SIGNaDOLLAR SIGNaPERCENT SIGNaAMPERSANDaAPOSTROPHEa
LEFT PARENTHESISaRIGHT PARENTHESISaASTERISKaPLUS SIGNaCOMMAaHYPHEN-MINUSaFULL STOPaSOLIDUSaDIGIT ZER
ObONEbTWObTHREEbFOURbFIVEbSIXbSEVENbEIGHTbNINEaCOLONaSEMICOLONaLESS-THAN SIGNaEQUALS SIGNaGREATER-TH
AN SIGNaQUESTION MARKaCOMMERCIAL ATaLATIN CAPITAL LETTER AdBdCdDdEdFdGdHdIdJdKdLdMdNdOdPdQdRdSdTdUdV
dWdXdYdZaLEFT SQUARE BRACKETaREVERSE SOLIDUSaRIGHT SQUARE BRACKETaCIRCUMFLEX ACCENTaLOW LINEaGRAVE A
CCENTaLATIN SMALL LETTER AdBdCdDdEdFdGdHdIdJdKdLdMdNdOdPdQdRdSdTdUdVdWdXdYdZaLEFT CURLY BRACKETaVERT
ICAL LINEaRIGHT CURLY BRACKETaTILDE=A0aNO-BREAK SPACEaINVERTED EXCLAMATION MARKaCENT SIGNaPOUND SIGN
aCURRENCY SIGNaYEN SIGNaBROKEN BARaSECTION SIGNaDIAERESISaCOPYRIGHT SIGNaFEMININE ORDINAL INDICATORa
LEFT-POINTING DOUBLE ANGLE QUOTATION MARKaNOT SIGNaSOFT HYPHENaREGISTERED SIGNaMACRONaDEGREE SIGNaPL
US-MINUS SIGNaSUPERSCRIPT TWObTHREEaACUTE ACCENTaMICRO SIGNaPILCROW SIGNaMIDDLE DOTaCEDILLAaSUPERSCR
IPT ONEaMASCULINE ORDINAL INDICATORaRIGHT-POINTING DOUBLE ANGLE QUOTATION MARKaVULGAR FRACTION ONE Q
UARTERdHALFcTHREE QUARTERSaINVERTED QUESTION MARKaLATIN CAPITAL LETTER A WITH GRAVEfACUTEfCIRCUMFLEX
fTILDEfDIAERESISfRING ABOVEdAEdC WITH CEDILLAdE WITH GRAVEfACUTEfCIRCUMFLEXfDIAERESISdI WITH GRAVEfA
CUTEfCIRCUMFLEXfDIAERESISdETHdN WITH TILDEdO WITH GRAVEfACUTEfCIRCUMFLEXfTILDEfDIAERESISaMULTIPLICAT
ION SIGNaLATIN CAPITAL LETTER O WITH STROKEdU WITH GRAVEfACUTEfCIRCUMFLEXfDIAERESISdY WITH ACUTEdTHO
RNbSMALL LETTER SHARP SdA WITH GRAVEfACUTEfCIRCUMFLEXfTILDEfDIAERESISfRING ABOVEdAEdC WITH CEDILLAd
E WITH GRAVEfACUTEfCIRCUMFLEXfDIAERESISdI WITH GRAVEfACUTEfCIRCUMFLEXfDIAERESISdETHdN WITH TILDEdO W
ITH GRAVEfACUTEfCIRCUMFLEXfTILDEfDIAERESISaDIVISION SIGNaLATIN SMALL LETTER O WITH STROKEdU WITH GRA
VEfACUTEfCIRCUMFLEXfDIAERESISdY WITH ACUTEdTHORNdY WITH DIAERESISbCAPITAL LETTER A WITH MACRONbSMAL
L LETTER A WITH MACRONbCAPITAL LETTER A WITH BREVEbSMALL LETTER A WITH BREVEbCAPITAL LETTER A WITH O
GONEKbSMALL LETTER A WITH OGONEKbCAPITAL LETTER C WITH ACUTEbSMALL LETTER C WITH ACUTEbCAPITAL LETTE
R C WITH CIRCUMFLEXbSMALL LETTER C WITH CIRCUMFLEXbCAPITAL LETTER C WITH DOT ABOVEbSMALL LETTER C WI
TH DOT ABOVEbCAPITAL LETTER C WITH CARONbSMALL LETTER C WITH CARONbCAPITAL LETTER D WITH CARONbSMAL
L LETTER D WITH CARONbCAPITAL LETTER D WITH STROKEbSMALL LETTER D WITH STROKEbCAPITAL LETTER E WIT
H MACRONbSMALL LETTER E WITH MACRONbCAPITAL LETTER E WITH BREVEbSMALL LETTER E WITH BREVEbCAPITAL LE
TTER E WITH DOT ABOVEbSMALL LETTER E WITH DOT ABOVEbCAPITAL LETTER E WITH OGONEKbSMALL LETTER E WIT
H OGONEKbCAPITAL LETTER E WITH CARONbSMALL LETTER E WITH CARONbCAPITAL LETTER G WITH CIRCUMFLEXbSMAL
L LETTER G WITH CIRCUMFLEXbCAPITAL LETTER G WITH BREVEbSMALL LETTER G WITH BREVEbCAPITAL LETTER G WI
TH DOT ABOVEbSMALL LETTER G WITH DOT ABOVEbCAPITAL LETTER G WITH CEDILLAbSMALL LETTER G WITH CEDILLA
bCAPITAL LETTER H WITH CIRCUMFLEXbSMALL LETTER H WITH CIRCUMFLEXbCAPITAL LETTER H WITH STROKEbSMAL
L LETTER H WITH STROKEbCAPITAL LETTER I WITH TILDEbSMALL LETTER I WITH TILDEbCAPITAL LETTER I WITH M
ACRONbSMALL LETTER I WITH MACRONbCAPITAL LETTER I WITH BREVEbSMALL LETTER I WITH BREVEbCAPITAL LETTE
R I WITH OGONEKbSMALL LETTER I WITH OGONEKbCAPITAL LETTER I WITH DOT ABOVEbSMALL LETTER DOTLESS IbCA
PITAL LIGATURE IJbSMALL LIGATURE IJbCAPITAL LETTER J WITH CIRCUMFLEXbSMALL LETTER J WITH CIRCUMFLEXb
CAPITAL LETTER K WITH CEDILLAbSMALL LETTER K WITH CEDILLAdKRAbCAPITAL LETTER L WITH ACUTEbSMALL LETT
ER L WITH ACUTEbCAPITAL LETTER L WITH CEDILLAbSMALL LETTER L WITH CEDILLAbCAPITAL LETTER L WITH CARO
NbSMALL LETTER L WITH CARONbCAPITAL LETTER L WITH MIDDLE DOTbSMALL LETTER L WITH MIDDLE DOTbCAPITA
L LETTER L WITH STROKEbSMALL LETTER L WITH STROKEbCAPITAL LETTER N WITH ACUTEbSMALL LETTER N WITH AC
UTEbCAPITAL LETTER N WITH CEDILLAbSMALL LETTER N WITH CEDILLAbCAPITAL LETTER N WITH CARONbSMALL LETT
ER N WITH CARONePRECEDED BY APOSTROPHEbCAPITAL LETTER ENGbSMALL LETTER ENGbCAPITAL LETTER O WITH MAC
RONbSMALL LETTER O WITH MACRONbCAPITAL LETTER O WITH BREVEbSMALL LETTER O WITH BREVEbCAPITAL LETTE
R O WITH DOUBLE ACUTEbSMALL LETTER O WITH DOUBLE ACUTEbCAPITAL LIGATURE OEbSMALL LIGATURE OEbCAPITA
L LETTER R WITH ACUTEbSMALL LETTER R WITH ACUTEbCAPITAL LETTER R WITH CEDILLAbSMALL LETTER R WITH CE
DILLAbCAPITAL LETTER R WITH CARONbSMALL LETTER R WITH CARONbCAPITAL LETTER S WITH ACUTEbSMALL LETTE
R S WITH ACUTEbCAPITAL LETTER S WITH CIRCUMFLEXbSMALL LETTER S WITH CIRCUMFLEXbCAPITAL LETTER S WIT
H CEDILLAbSMALL LETTER S WITH CEDILLAbCAPITAL LETTER S WITH CARONbSMALL LETTER S WITH CARONbCAPITA
L LETTER T WITH CEDILLAbSMALL LETTER T WITH CEDILLAbCAPITAL LETTER T WITH CARONbSMALL LETTER T WIT
H CARONbCAPITAL LETTER T WITH STROKEbSMALL LETTER T WITH STROKEbCAPITAL LETTER U WITH TILDEbSMALL LE
TTER U WITH TILDEbCAPITAL LETTER U WITH MACRONbSMALL LETTER U WITH MACRONbCAPITAL LETTER U WITH BREV
EbSMALL LETTER U WITH BREVEbCAPITAL LETTER U WITH RING ABOVEbSMALL LETTER U WITH RING ABOVEbCAPITA
L LETTER U WITH DOUBLE ACUTEbSMALL LETTER U WITH DOUBLE ACUTEbCAPITAL LETTER U WITH OGONEKbSMALL LET
TER U WITH OGONEKbCAPITAL LETTER W WITH CIRCUMFLEXbSMALL LETTER W WITH CIRCUMFLEXbCAPITAL LETTER Y W
ITH CIRCUMFLEXbSMALL LETTER Y WITH CIRCUMFLEXbCAPITAL LETTER Y WITH DIAERESISdZ WITH ACUTEbSMALL LET
TER Z WITH ACUTEbCAPITAL LETTER Z WITH DOT ABOVEbSMALL LETTER Z WITH DOT ABOVEbCAPITAL LETTER Z WIT
H CARONbSMALL LETTER Z WITH CARONdLONG SdB WITH STROKEbCAPITAL LETTER B WITH HOOKfTOPBARbSMALL LETTE
R B WITH TOPBARbCAPITAL LETTER TONE SIXbSMALL LETTER TONE SIXbCAPITAL LETTER OPEN OdC WITH HOOKbSMAL
L LETTER C WITH HOOKbCAPITAL LETTER AFRICAN DdD WITH HOOKfTOPBARbSMALL LETTER D WITH TOPBARdTURNED D
ELTAbCAPITAL LETTER REVERSED EdSCHWAdOPEN EdF WITH HOOKbSMALL LETTER F WITH HOOKbCAPITAL LETTER G WI
TH HOOKdGAMMAbSMALL LETTER HVbCAPITAL LETTER IOTAdI WITH STROKEdK WITH HOOKbSMALL LETTER K WITH HOOK
dL WITH BARdLAMBDA WITH STROKEbCAPITAL LETTER TURNED MdN WITH LEFT HOOKbSMALL LETTER N WITH LONG RIG
HT LEGbCAPITAL LETTER O WITH MIDDLE TILDEfHORNbSMALL LETTER O WITH HORNbCAPITAL LETTER OIbSMALL LETT
ER OIbCAPITAL LETTER P WITH HOOKbSMALL LETTER P WITH HOOKbLETTER YRbCAPITAL LETTER TONE TWObSMALL LE
TTER TONE TWObCAPITAL LETTER ESHbLETTER REVERSED ESH LOOPbSMALL LETTER T WITH PALATAL HOOKbCAPITAL L
ETTER T WITH HOOKbSMALL LETTER T WITH HOOKbCAPITAL LETTER T WITH RETROFLEX HOOKdU WITH HORNbSMALL LE
TTER U WITH HORNbCAPITAL LETTER UPSILONdV WITH HOOKdY WITH HOOKbSMALL LETTER Y WITH HOOKbCAPITAL LET
TER Z WITH STROKEbSMALL LETTER Z WITH STROKEbCAPITAL LETTER EZHdEZH REVERSEDbSMALL LETTER EZH REVERS
EDeWITH TAILbLETTER TWO WITH STROKEbCAPITAL LETTER TONE FIVEbSMALL LETTER TONE FIVEbLETTER INVERTE
D GLOTTAL STOP WITH STROKEcWYNNcDENTAL CLICKcLATERAL CLICKcALVEOLAR CLICKcRETROFLEX CLICKbCAPITAL LE
TTER DZ WITH CARONdD WITH SMALL LETTER Z WITH CARONbSMALL LETTER DZ WITH CARONbCAPITAL LETTER LJdL W
ITH SMALL LETTER JbSMALL LETTER LJbCAPITAL LETTER NJdN WITH SMALL LETTER JbSMALL LETTER NJbCAPITAL L
ETTER A WITH CARONbSMALL LETTER A WITH CARONbCAPITAL LETTER I WITH CARONbSMALL LETTER I WITH CARONbC
APITAL LETTER O WITH CARONbSMALL LETTER O WITH CARONbCAPITAL LETTER U WITH CARONbSMALL LETTER U WIT
H CARONbCAPITAL LETTER U WITH DIAERESIS AND MACRONbSMALL LETTER U WITH DIAERESIS AND MACRONbCAPITA
L LETTER U WITH DIAERESIS AND ACUTEbSMALL LETTER U WITH DIAERESIS AND ACUTEbCAPITAL LETTER U WITH DI
AERESIS AND CARONbSMALL LETTER U WITH DIAERESIS AND CARONbCAPITAL LETTER U WITH DIAERESIS AND GRAVEb
SMALL LETTER U WITH DIAERESIS AND GRAVEdTURNED EbCAPITAL LETTER A WITH DIAERESIS AND MACRONbSMALL LE
TTER A WITH DIAERESIS AND MACRONbCAPITAL LETTER A WITH DOT ABOVE AND MACRONbSMALL LETTER A WITH DO
T ABOVE AND MACRONbCAPITAL LETTER AE WITH MACRONbSMALL LETTER AE WITH MACRONbCAPITAL LETTER G WITH S
TROKEbSMALL LETTER G WITH STROKEbCAPITAL LETTER G WITH CARONbSMALL LETTER G WITH CARONbCAPITAL LETTE
R K WITH CARONbSMALL LETTER K WITH CARONbCAPITAL LETTER O WITH OGONEKbSMALL LETTER O WITH OGONEKbCAP
ITAL LETTER O WITH OGONEK AND MACRONbSMALL LETTER O WITH OGONEK AND MACRONbCAPITAL LETTER EZH WITH C
ARONbSMALL LETTER EZH WITH CARONdJ WITH CARONbCAPITAL LETTER DZdD WITH SMALL LETTER ZbSMALL LETTER D
ZbCAPITAL LETTER G WITH ACUTEbSMALL LETTER G WITH ACUTEbCAPITAL LETTER HWAIRdWYNNdN WITH GRAVEbSMAL
L LETTER N WITH GRAVEbCAPITAL LETTER A WITH RING ABOVE AND ACUTEbSMALL LETTER A WITH RING ABOVE AN
D ACUTEbCAPITAL LETTER AE WITH ACUTEbSMALL LETTER AE WITH ACUTEbCAPITAL LETTER O WITH STROKE AND ACU
TEbSMALL LETTER O WITH STROKE AND ACUTEbCAPITAL LETTER A WITH DOUBLE GRAVEbSMALL LETTER A WITH DOUBL
E GRAVEbCAPITAL LETTER A WITH INVERTED BREVEbSMALL LETTER A WITH INVERTED BREVEbCAPITAL LETTER E WIT
H DOUBLE GRAVEbSMALL LETTER E WITH DOUBLE GRAVEbCAPITAL LETTER E WITH INVERTED BREVEbSMALL LETTE
R E WITH INVERTED BREVEbCAPITAL LETTER I WITH DOUBLE GRAVEbSMALL LETTER I WITH DOUBLE GRAVEbCAPITA
L LETTER I WITH INVERTED BREVEbSMALL LETTER I WITH INVERTED BREVEbCAPITAL LETTER O WITH DOUBLE GRAVE
bSMALL LETTER O WITH DOUBLE GRAVEbCAPITAL LETTER O WITH INVERTED BREVEbSMALL LETTER O WITH INVERTE
D BREVEbCAPITAL LETTER R WITH DOUBLE GRAVEbSMALL LETTER R WITH DOUBLE GRAVEbCAPITAL LETTER R WITH IN
VERTED BREVEbSMALL LETTER R WITH INVERTED BREVEbCAPITAL LETTER U WITH DOUBLE GRAVEbSMALL LETTER U WI
TH DOUBLE GRAVEbCAPITAL LETTER U WITH INVERTED BREVEbSMALL LETTER U WITH INVERTED BREVEbCAPITAL LETT
ER S WITH COMMA BELOWbSMALL LETTER S WITH COMMA BELOWbCAPITAL LETTER T WITH COMMA BELOWbSMALL LETTE
R T WITH COMMA BELOWbCAPITAL LETTER YOGHbSMALL LETTER YOGHbCAPITAL LETTER H WITH CARONbSMALL LETTE
R H WITH CARONbCAPITAL LETTER N WITH LONG RIGHT LEGbSMALL LETTER D WITH CURLbCAPITAL LETTER OUbSMAL
L LETTER OUbCAPITAL LETTER Z WITH HOOKbSMALL LETTER Z WITH HOOKbCAPITAL LETTER A WITH DOT ABOVEbSMAL
L LETTER A WITH DOT ABOVEbCAPITAL LETTER E WITH CEDILLAbSMALL LETTER E WITH CEDILLAbCAPITAL LETTE
R O WITH DIAERESIS AND MACRONbSMALL LETTER O WITH DIAERESIS AND MACRONbCAPITAL LETTER O WITH TILDE A
ND MACRONbSMALL LETTER O WITH TILDE AND MACRONbCAPITAL LETTER O WITH DOT ABOVEbSMALL LETTER O WITH D
OT ABOVEbCAPITAL LETTER O WITH DOT ABOVE AND MACRONbSMALL LETTER O WITH DOT ABOVE AND MACRONbCAPITA
L LETTER Y WITH MACRONbSMALL LETTER Y WITH MACRONdL WITH CURLdN WITH CURLdT WITH CURLdDOTLESS JdDB D
IGRAPHdQP DIGRAPHbCAPITAL LETTER A WITH STROKEdC WITH STROKEbSMALL LETTER C WITH STROKEbCAPITAL LETT
ER L WITH BARdT WITH DIAGONAL STROKEbSMALL LETTER S WITH SWASH TAILdZ WITH SWASH TAILbCAPITAL LETTE
R GLOTTAL STOPbSMALL LETTER GLOTTAL STOPbCAPITAL LETTER B WITH STROKEdU BARdTURNED VdE WITH STROKEbS
MALL LETTER E WITH STROKEbCAPITAL LETTER J WITH STROKEbSMALL LETTER J WITH STROKEbCAPITAL LETTER SMA
LL Q WITH HOOK TAILbSMALL LETTER Q WITH HOOK TAILbCAPITAL LETTER R WITH STROKEbSMALL LETTER R WITH S
TROKEbCAPITAL LETTER Y WITH STROKEbSMALL LETTER Y WITH STROKEdTURNED AdALPHAdTURNED ALPHAdB WITH HOO
KdOPEN OdC WITH CURLdD WITH TAILfHOOKdREVERSED EdSCHWAdSCHWA WITH HOOKdOPEN EdREVERSED OPEN EfE WIT
H HOOKdCLOSED REVERSED OPEN EdDOTLESS J WITH STROKEdG WITH HOOKdSCRIPT GbLETTER SMALL CAPITAL GbSMAL
L LETTER GAMMAdRAMS HORNdTURNED HdH WITH HOOKdHENG WITH HOOKdI WITH STROKEdIOTAbLETTER SMALL CAPITA
L IbSMALL LETTER L WITH MIDDLE TILDEfBELTfRETROFLEX HOOKdLEZHdTURNED MeM WITH LONG LEGdM WITH HOOKd
N WITH LEFT HOOKfRETROFLEX HOOKbLETTER SMALL CAPITAL NbSMALL LETTER BARRED ObLETTER SMALL CAPITAL OE
bSMALL LETTER CLOSED OMEGAdPHIdTURNED ReR WITH LONG LEGgHOOKdR WITH LONG LEGfTAILfFISHHOOKdREVERSE
D R WITH FISHHOOKbLETTER SMALL CAPITAL ReINVERTED RbSMALL LETTER S WITH HOOKdESHdDOTLESS J WITH STRO
KE AND HOOKdSQUAT REVERSED ESHdESH WITH CURLdTURNED TdT WITH RETROFLEX HOOKdU BARdUPSILONdV WITH HOO
KdTURNED VeWeYbLETTER SMALL CAPITAL YbSMALL LETTER Z WITH RETROFLEX HOOKfCURLdEZHdEZH WITH CURLbLETT
ER GLOTTAL STOPcPHARYNGEAL VOICED FRICATIVEcINVERTED GLOTTAL STOPcSTRETCHED CcBILABIAL CLICKcSMALL C
APITAL BbSMALL LETTER CLOSED OPEN EbLETTER SMALL CAPITAL G WITH HOOKeHbSMALL LETTER J WITH CROSSED-T
AILdTURNED KbLETTER SMALL CAPITAL LbSMALL LETTER Q WITH HOOKbLETTER GLOTTAL STOP WITH STROKEcREVERSE
D GLOTTAL STOP WITH STROKEbSMALL LETTER DZ DIGRAPHdDEZH DIGRAPHdDZ DIGRAPH WITH CURLdTS DIGRAPHdTES
H DIGRAPHdTC DIGRAPH WITH CURLdFENG DIGRAPHdLS DIGRAPHdLZ DIGRAPHbLETTER BILABIAL PERCUSSIVEcBIDENTA
L PERCUSSIVEbSMALL LETTER TURNED H WITH FISHHOOKgFISHHOOK AND TAILaMODIFIER LETTER SMALL HdH WITH HO
OKdJdRdTURNED ReR WITH HOOKdCAPITAL INVERTED RdWdYcPRIMEcDOUBLE PRIMEcTURNED COMMAcAPOSTROPHEcREVERS
ED COMMAcRIGHT HALF RINGcLEFT HALF RINGcGLOTTAL STOPcREVERSED GLOTTAL STOPcLEFT ARROWHEADcRIGHT ARRO
WHEADcUP ARROWHEADcDOWN ARROWHEADcCIRCUMFLEX ACCENTaCARONaMODIFIER LETTER VERTICAL LINEcMACRONcACUT
E ACCENTcGRAVE ACCENTcLOW VERTICAL LINEdMACRONdGRAVE ACCENTdACUTE ACCENTcTRIANGULAR COLONcHALF TRIAN
GULAR COLONcCENTRED RIGHT HALF RINGdLEFT HALF RINGcUP TACKcDOWN TACKcPLUS SIGNcMINUS SIGNaBREVEaDO
T ABOVEaRING ABOVEaOGONEKaSMALL TILDEaDOUBLE ACUTE ACCENTaMODIFIER LETTER RHOTIC HOOKcCROSS ACCENTcS
MALL GAMMAdLdSdXdREVERSED GLOTTAL STOPcEXTRA-HIGH TONE BARcHIGH TONE BARcMID TONE BARcLOW TONE BARcE
XTRA-LOW TONE BARcYIN DEPARTING TONE MARKcYANG DEPARTING TONE MARKcVOICINGcUNASPIRATEDcDOUBLE APOSTR
OPHEcLOW DOWN ARROWHEADdUP ARROWHEADdLEFT ARROWHEADdRIGHT ARROWHEADdRINGcMIDDLE GRAVE ACCENTdDOUBL
E GRAVE ACCENTeACUTE ACCENTcLOW TILDEcRAISED COLONcBEGIN HIGH TONEcEND HIGH TONEcBEGIN LOW TONEcEN
D LOW TONEcSHELFcOPEN SHELFcLOW LEFT ARROWaCOMBINING GRAVE ACCENTbACUTE ACCENTbCIRCUMFLEX ACCENTbTIL
DEbMACRONbOVERLINEbBREVEbDOT ABOVEbDIAERESISbHOOK ABOVEbRING ABOVEbDOUBLE ACUTE ACCENTbCARONbVERTICA
L LINE ABOVEbDOUBLE VERTICAL LINE ABOVEcGRAVE ACCENTbCANDRABINDUbINVERTED BREVEbTURNED COMMA ABOVEbC
OMMA ABOVEbREVERSED COMMA ABOVEbCOMMA ABOVE RIGHTbGRAVE ACCENT BELOWbACUTE ACCENT BELOWbLEFT TACK BE
LOWbRIGHT TACK BELOWbLEFT ANGLE ABOVEbHORNbLEFT HALF RING BELOWbUP TACK BELOWbDOWN TACK BELOWbPLUS S
IGN BELOWbMINUS SIGN BELOWbPALATALIZED HOOK BELOWbRETROFLEX HOOK BELOWbDOT BELOWbDIAERESIS BELOWbRIN
G BELOWbCOMMA BELOWbCEDILLAbOGONEKbVERTICAL LINE BELOWbBRIDGE BELOWbINVERTED DOUBLE ARCH BELOWbCARO
N BELOWbCIRCUMFLEX ACCENT BELOWbBREVE BELOWbINVERTED BREVE BELOWbTILDE BELOWbMACRON BELOWbLOW LINEbD
OUBLE LOW LINEbTILDE OVERLAYbSHORT STROKE OVERLAYbLONG STROKE OVERLAYbSHORT SOLIDUS OVERLAYbLONG SOL
IDUS OVERLAYbRIGHT HALF RING BELOWbINVERTED BRIDGE BELOWbSQUARE BELOWbSEAGULL BELOWbX ABOVEbVERTICA
L TILDEbDOUBLE OVERLINEbGRAVE TONE MARKbACUTE TONE MARKbGREEK PERISPOMENIcKORONIScDIALYTIKA TONOScYP
OGEGRAMMENIbBRIDGE ABOVEbEQUALS SIGN BELOWbDOUBLE VERTICAL LINE BELOWbLEFT ANGLE BELOWbNOT TILDE ABO
VEbHOMOTHETIC ABOVEbALMOST EQUAL TO ABOVEbLEFT RIGHT ARROW BELOWbUPWARDS ARROW BELOWbGRAPHEME JOINER
bRIGHT ARROWHEAD ABOVEbLEFT HALF RING ABOVEbFERMATAbX BELOWbLEFT ARROWHEAD BELOWbRIGHT ARROWHEAD BEL
OWdAND UP ARROWHEAD BELOWcHALF RING ABOVEbDOT ABOVE RIGHTbASTERISK BELOWbDOUBLE RING BELOWbZIGZAG AB
OVEbDOUBLE BREVE BELOWcBREVEcMACRONcMACRON BELOWcTILDEcINVERTED BREVEcRIGHTWARDS ARROW BELOWbLATIN S
MALL LETTER AeEeIeOeUeCeDeHeMeReTeVeXaGREEK CAPITAL LETTER HETAbSMALL LETTER HETAbCAPITAL LETTER ARC
HAIC SAMPIbSMALL LETTER ARCHAIC SAMPIbNUMERAL SIGNbLOWER NUMERAL SIGNbCAPITAL LETTER PAMPHYLIAN DIGA
MMAbSMALL LETTER PAMPHYLIAN DIGAMMA=37AaGREEK YPOGEGRAMMENIbSMALL REVERSED LUNATE SIGMA SYMBOLcDOTTE
D LUNATE SIGMA SYMBOLcREVERSED DOTTED LUNATE SIGMA SYMBOLbQUESTION MARKbCAPITAL LETTER YOT=384aGREE
K TONOSbDIALYTIKA TONOSbCAPITAL LETTER ALPHA WITH TONOSbANO TELEIAbCAPITAL LETTER EPSILON WITH TONOS
dETA WITH TONOSdIOTA WITH TONOS=38CaGREEK CAPITAL LETTER OMICRON WITH TONOS=38EaGREEK CAPITAL LETTE
R UPSILON WITH TONOSdOMEGA WITH TONOSbSMALL LETTER IOTA WITH DIALYTIKA AND TONOSbCAPITAL LETTER ALPH
AdBETAdGAMMAdDELTAdEPSILONdZETAdETAdTHETAdIOTAdKAPPAdLAMDAdMUdNUdXIdOMICRONdPIdRHO=3A3aGREEK CAPITA
L LETTER SIGMAdTAUdUPSILONdPHIdCHIdPSIdOMEGAdIOTA WITH DIALYTIKAdUPSILON WITH DIALYTIKAbSMALL LETTE
R ALPHA WITH TONOSdEPSILON WITH TONOSdETA WITH TONOSdIOTA WITH TONOSdUPSILON WITH DIALYTIKA AND TONO
SdALPHAdBETAdGAMMAdDELTAdEPSILONdZETAdETAdTHETAdIOTAdKAPPAdLAMDAdMUdNUdXIdOMICRONdPIdRHOdFINAL SIGMA
dSIGMAdTAUdUPSILONdPHIdCHIdPSIdOMEGAdIOTA WITH DIALYTIKAdUPSILON WITH DIALYTIKAdOMICRON WITH TONOSdU
PSILON WITH TONOSdOMEGA WITH TONOSbCAPITAL KAI SYMBOLbBETA SYMBOLbTHETA SYMBOLbUPSILON WITH HOOK SYM
BOLdACUTE AND HOOK SYMBOLdDIAERESIS AND HOOK SYMBOLbPHI SYMBOLbPI SYMBOLbKAI SYMBOLbLETTER ARCHAIC K
OPPAbSMALL LETTER ARCHAIC KOPPAbLETTER STIGMAbSMALL LETTER STIGMAbLETTER DIGAMMAbSMALL LETTER DIGAMM
AbLETTER KOPPAbSMALL LETTER KOPPAbLETTER SAMPIbSMALL LETTER SAMPIaCOPTIC CAPITAL LETTER SHEIbSMALL L
ETTER SHEIbCAPITAL LETTER FEIbSMALL LETTER FEIbCAPITAL LETTER KHEIbSMALL LETTER KHEIbCAPITAL LETTE
R HORIbSMALL LETTER HORIbCAPITAL LETTER GANGIAbSMALL LETTER GANGIAbCAPITAL LETTER SHIMAbSMALL LETTE
R SHIMAbCAPITAL LETTER DEIbSMALL LETTER DEIaGREEK KAPPA SYMBOLbRHO SYMBOLbLUNATE SIGMA SYMBOLbLETTE
R YOTbCAPITAL THETA SYMBOLbLUNATE EPSILON SYMBOLbREVERSED LUNATE EPSILON SYMBOLbCAPITAL LETTER SHObS
MALL LETTER SHObCAPITAL LUNATE SIGMA SYMBOLcLETTER SANbSMALL LETTER SANbRHO WITH STROKE SYMBOLbCAPIT
AL REVERSED LUNATE SIGMA SYMBOLcDOTTED LUNATE SIGMA SYMBOLcREVERSED DOTTED LUNATE SIGMA SYMBOLaCYRIL
LIC CAPITAL LETTER IE WITH GRAVEdIOdDJEdGJEdUKRAINIAN IEdDZEdBYELORUSSIAN-UKRAINIAN IdYIdJEdLJEdNJEd
TSHEdKJEdI WITH GRAVEdSHORT UdDZHEdAdBEdVEdGHEdDEdIEdZHEdZEdIdSHORT IdKAdELdEMdENdOdPEdERdESdTEdUdEF
dHAdTSEdCHEdSHAdSHCHAdHARD SIGNdYERUdSOFT SIGNdEdYUdYAbSMALL LETTER AdBEdVEdGHEdDEdIEdZHEdZEdIdSHOR
T IdKAdELdEMdENdOdPEdERdESdTEdUdEFdHAdTSEdCHEdSHAdSHCHAdHARD SIGNdYERUdSOFT SIGNdEdYUdYAdIE WITH GRA
VEdIOdDJEdGJEdUKRAINIAN IEdDZEdBYELORUSSIAN-UKRAINIAN IdYIdJEdLJEdNJEdTSHEdKJEdI WITH GRAVEdSHORT Ud
DZHEbCAPITAL LETTER OMEGAbSMALL LETTER OMEGAbCAPITAL LETTER YATbSMALL LETTER YATbCAPITAL LETTER IOTI
FIED EbSMALL LETTER IOTIFIED EbCAPITAL LETTER LITTLE YUSbSMALL LETTER LITTLE YUSbCAPITAL LETTER IOTI
FIED LITTLE YUSbSMALL LETTER IOTIFIED LITTLE YUSbCAPITAL LETTER BIG YUSbSMALL LETTER BIG YUSbCAPITA
L LETTER IOTIFIED BIG YUSbSMALL LETTER IOTIFIED BIG YUSbCAPITAL LETTER KSIbSMALL LETTER KSIbCAPITA
L LETTER PSIbSMALL LETTER PSIbCAPITAL LETTER FITAbSMALL LETTER FITAbCAPITAL LETTER IZHITSAbSMALL LET
TER IZHITSAbCAPITAL LETTER IZHITSA WITH DOUBLE GRAVE ACCENTbSMALL LETTER IZHITSA WITH DOUBLE GRAVE A
CCENTbCAPITAL LETTER UKbSMALL LETTER UKbCAPITAL LETTER ROUND OMEGAbSMALL LETTER ROUND OMEGAbCAPITA
L LETTER OMEGA WITH TITLObSMALL LETTER OMEGA WITH TITLObCAPITAL LETTER OTbSMALL LETTER OTbCAPITAL LE
TTER KOPPAbSMALL LETTER KOPPAbTHOUSANDS SIGNaCOMBINING CYRILLIC TITLOcPALATALIZATIONcDASIA PNEUMATAc
PSILI PNEUMATAcPOKRYTIEcHUNDRED THOUSANDS SIGNcMILLIONS SIGNaCYRILLIC CAPITAL LETTER SHORT I WITH TA
ILbSMALL LETTER SHORT I WITH TAILbCAPITAL LETTER SEMISOFT SIGNbSMALL LETTER SEMISOFT SIGNbCAPITAL LE
TTER ER WITH TICKbSMALL LETTER ER WITH TICKbCAPITAL LETTER GHE WITH UPTURNbSMALL LETTER GHE WITH UPT
URNbCAPITAL LETTER GHE WITH STROKEbSMALL LETTER GHE WITH STROKEbCAPITAL LETTER GHE WITH MIDDLE HOOKb
SMALL LETTER GHE WITH MIDDLE HOOKbCAPITAL LETTER ZHE WITH DESCENDERbSMALL LETTER ZHE WITH DESCENDERb
CAPITAL LETTER ZE WITH DESCENDERbSMALL LETTER ZE WITH DESCENDERbCAPITAL LETTER KA WITH DESCENDERbSMA
LL LETTER KA WITH DESCENDERbCAPITAL LETTER KA WITH VERTICAL STROKEbSMALL LETTER KA WITH VERTICAL STR
OKEbCAPITAL LETTER KA WITH STROKEbSMALL LETTER KA WITH STROKEbCAPITAL LETTER BASHKIR KAbSMALL LETTE
R BASHKIR KAbCAPITAL LETTER EN WITH DESCENDERbSMALL LETTER EN WITH DESCENDERbCAPITAL LIGATURE EN GHE
bSMALL LIGATURE EN GHEbCAPITAL LETTER PE WITH MIDDLE HOOKbSMALL LETTER PE WITH MIDDLE HOOKbCAPITAL L
ETTER ABKHASIAN HAbSMALL LETTER ABKHASIAN HAbCAPITAL LETTER ES WITH DESCENDERbSMALL LETTER ES WITH D
ESCENDERbCAPITAL LETTER TE WITH DESCENDERbSMALL LETTER TE WITH DESCENDERbCAPITAL LETTER STRAIGHT UbS
MALL LETTER STRAIGHT UbCAPITAL LETTER STRAIGHT U WITH STROKEbSMALL LETTER STRAIGHT U WITH STROKEbCAP
ITAL LETTER HA WITH DESCENDERbSMALL LETTER HA WITH DESCENDERbCAPITAL LIGATURE TE TSEbSMALL LIGATUR
E TE TSEbCAPITAL LETTER CHE WITH DESCENDERbSMALL LETTER CHE WITH DESCENDERbCAPITAL LETTER CHE WITH V
ERTICAL STROKEbSMALL LETTER CHE WITH VERTICAL STROKEbCAPITAL LETTER SHHAbSMALL LETTER SHHAbCAPITAL L
ETTER ABKHASIAN CHEbSMALL LETTER ABKHASIAN CHEbCAPITAL LETTER ABKHASIAN CHE WITH DESCENDERbSMALL LET
TER ABKHASIAN CHE WITH DESCENDERbLETTER PALOCHKAbCAPITAL LETTER ZHE WITH BREVEbSMALL LETTER ZHE WIT
H BREVEbCAPITAL LETTER KA WITH HOOKbSMALL LETTER KA WITH HOOKbCAPITAL LETTER EL WITH TAILbSMALL LETT
ER EL WITH TAILbCAPITAL LETTER EN WITH HOOKbSMALL LETTER EN WITH HOOKbCAPITAL LETTER EN WITH TAILbSM
ALL LETTER EN WITH TAILbCAPITAL LETTER KHAKASSIAN CHEbSMALL LETTER KHAKASSIAN CHEbCAPITAL LETTER E
M WITH TAILbSMALL LETTER EM WITH TAILdPALOCHKAbCAPITAL LETTER A WITH BREVEbSMALL LETTER A WITH BREVE
bCAPITAL LETTER A WITH DIAERESISbSMALL LETTER A WITH DIAERESISbCAPITAL LIGATURE A IEbSMALL LIGATUR
E A IEbCAPITAL LETTER IE WITH BREVEbSMALL LETTER IE WITH BREVEbCAPITAL LETTER SCHWAbSMALL LETTER SCH
WAbCAPITAL LETTER SCHWA WITH DIAERESISbSMALL LETTER SCHWA WITH DIAERESISbCAPITAL LETTER ZHE WITH DIA
ERESISbSMALL LETTER ZHE WITH DIAERESISbCAPITAL LETTER ZE WITH DIAERESISbSMALL LETTER ZE WITH DIAERES
ISbCAPITAL LETTER ABKHASIAN DZEbSMALL LETTER ABKHASIAN DZEbCAPITAL LETTER I WITH MACRONbSMALL LETTE
R I WITH MACRONbCAPITAL LETTER I WITH DIAERESISbSMALL LETTER I WITH DIAERESISbCAPITAL LETTER O WIT
H DIAERESISbSMALL LETTER O WITH DIAERESISbCAPITAL LETTER BARRED ObSMALL LETTER BARRED ObCAPITAL LETT
ER BARRED O WITH DIAERESISbSMALL LETTER BARRED O WITH DIAERESISbCAPITAL LETTER E WITH DIAERESISbSMAL
L LETTER E WITH DIAERESISbCAPITAL LETTER U WITH MACRONbSMALL LETTER U WITH MACRONbCAPITAL LETTER U W
ITH DIAERESISbSMALL LETTER U WITH DIAERESISbCAPITAL LETTER U WITH DOUBLE ACUTEbSMALL LETTER U WITH D
OUBLE ACUTEbCAPITAL LETTER CHE WITH DIAERESISbSMALL LETTER CHE WITH DIAERESISbCAPITAL LETTER GHE WIT
H DESCENDERbSMALL LETTER GHE WITH DESCENDERbCAPITAL LETTER YERU WITH DIAERESISbSMALL LETTER YERU WIT
H DIAERESISbCAPITAL LETTER GHE WITH STROKE AND HOOKbSMALL LETTER GHE WITH STROKE AND HOOKbCAPITAL LE
TTER HA WITH HOOKbSMALL LETTER HA WITH HOOKbCAPITAL LETTER HA WITH STROKEbSMALL LETTER HA WITH STROK
EbCAPITAL LETTER KOMI DEbSMALL LETTER KOMI DEbCAPITAL LETTER KOMI DJEbSMALL LETTER KOMI DJEbCAPITA
L LETTER KOMI ZJEbSMALL LETTER KOMI ZJEbCAPITAL LETTER KOMI DZJEbSMALL LETTER KOMI DZJEbCAPITAL LETT
ER KOMI LJEbSMALL LETTER KOMI LJEbCAPITAL LETTER KOMI NJEbSMALL LETTER KOMI NJEbCAPITAL LETTER KOM
I SJEbSMALL LETTER KOMI SJEbCAPITAL LETTER KOMI TJEbSMALL LETTER KOMI TJEbCAPITAL LETTER REVERSED ZE
bSMALL LETTER REVERSED ZEbCAPITAL LETTER EL WITH HOOKbSMALL LETTER EL WITH HOOKbCAPITAL LETTER LHAbS
MALL LETTER LHAbCAPITAL LETTER RHAbSMALL LETTER RHAbCAPITAL LETTER YAEbSMALL LETTER YAEbCAPITAL LETT
ER QAbSMALL LETTER QAbCAPITAL LETTER WEbSMALL LETTER WEbCAPITAL LETTER ALEUT KAbSMALL LETTER ALEUT K
AbCAPITAL LETTER EL WITH MIDDLE HOOKbSMALL LETTER EL WITH MIDDLE HOOKbCAPITAL LETTER EN WITH MIDDL
E HOOKbSMALL LETTER EN WITH MIDDLE HOOKbCAPITAL LETTER PE WITH DESCENDERbSMALL LETTER PE WITH DESCEN
DERbCAPITAL LETTER SHHA WITH DESCENDERbSMALL LETTER SHHA WITH DESCENDERbCAPITAL LETTER EN WITH LEF
T HOOKbSMALL LETTER EN WITH LEFT HOOKbCAPITAL LETTER DZZHEbSMALL LETTER DZZHEbCAPITAL LETTER DCHEbSM
ALL LETTER DCHEbCAPITAL LETTER EL WITH DESCENDERbSMALL LETTER EL WITH DESCENDER=531aARMENIAN CAPITA
L LETTER AYBdBENdGIMdDAdECHdZAdEHdETdTOdZHEdINIdLIWNdXEHdCAdKENdHOdJAdGHADdCHEHdMENdYIdNOWdSHAdVOdCH
AdPEHdJHEHdRAdSEHdVEWdTIWNdREHdCOdYIWNdPIWRdKEHdOHdFEH=559aARMENIAN MODIFIER LETTER LEFT HALF RINGbA
POSTROPHEbEMPHASIS MARKbEXCLAMATION MARKbCOMMAbQUESTION MARKbABBREVIATION MARKbSMALL LETTER TURNED A
YBdAYBdBENdGIMdDAdECHdZAdEHdETdTOdZHEdINIdLIWNdXEHdCAdKENdHOdJAdGHADdCHEHdMENdYIdNOWdSHAdVOdCHAdPEHd
JHEHdRAdSEHdVEWdTIWNdREHdCOdYIWNdPIWRdKEHdOHdFEHcLIGATURE ECH YIWNcLETTER YI WITH STROKEbFULL STOPbH
YPHEN=58DaRIGHT-FACING ARMENIAN ETERNITY SIGNaLEFT-FACING ARMENIAN ETERNITY SIGNaARMENIAN DRAM SIGN=
591aHEBREW ACCENT ETNAHTAcSEGOLcSHALSHELETcZAQEF QATANdGADOLcTIPEHAcREVIAcZARQAcPASHTAcYETIVcTEVIRcG
ERESHcGERESH MUQDAMcGERSHAYIMcQARNEY PARAcTELISHA GEDOLAcPAZERcATNAH HAFUKHcMUNAHcMAHAPAKHcMERKHAcME
RKHA KEFULAcDARGAcQADMAcTELISHA QETANAcYERAH BEN YOMOcOLEcILUYcDEHIcZINORbMARK MASORA CIRCLEbPOINT S
HEVAcHATAF SEGOLdPATAHdQAMATScHIRIQcTSEREcSEGOLcPATAHcQAMATScHOLAMcHOLAM HASER FOR VAVcQUBUTScDAGES
H OR MAPIQcMETEGbPUNCTUATION MAQAFbPOINT RAFEbPUNCTUATION PASEQbPOINT SHIN DOTcSIN DOTbPUNCTUATION S
OF PASUQbMARK UPPER DOTcLOWER DOTbPUNCTUATION NUN HAFUKHAbPOINT QAMATS QATAN=5D0aHEBREW LETTER ALEFc
BETcGIMELcDALETcHEcVAVcZAYINcHETcTETcYODcFINAL KAFcKAFcLAMEDcFINAL MEMcMEMcFINAL NUNcNUNcSAMEKHcAYIN
cFINAL PEcPEcFINAL TSADIcTSADIcQOFcRESHcSHINcTAV=5EFaHEBREW YOD TRIANGLEbLIGATURE YIDDISH DOUBLE VAV
dVAV YODdDOUBLE YODbPUNCTUATION GERESHcGERSHAYIM=600aARABIC NUMBER SIGNbSIGN SANAHbFOOTNOTE MARKERbS
IGN SAFHAcSAMVATbNUMBER MARK ABOVEaARABIC-INDIC CUBE ROOTcFOURTH ROOTaARABIC RAYaARABIC-INDIC PER MI
LLE SIGNdTEN THOUSAND SIGNaAFGHANI SIGNaARABIC COMMAbDATE SEPARATORbPOETIC VERSE SIGNbSIGN MISRAcSAL
LALLAHOU ALAYHE WASSALLAMcALAYHE ASSALLAMcRAHMATULLAH ALAYHEcRADI ALLAHOU ANHUcTAKHALLUSbSMALL HIG
H TAHdLIGATURE ALEF WITH LAM WITH YEHdZAINcFATHAcDAMMAcKASRAbSEMICOLONbLETTER MARKbEND OF TEXT MARKb
TRIPLE DOT PUNCTUATION MARKbQUESTION MARKbLETTER KASHMIRI YEHcHAMZAcALEF WITH MADDA ABOVEeHAMZA ABOV
EcWAW WITH HAMZA ABOVEcALEF WITH HAMZA BELOWcYEH WITH HAMZA ABOVEcALEFcBEHcTEH MARBUTAcTEHcTHEHcJEEM
cHAHcKHAHcDALcTHALcREHcZAINcSEENcSHEENcSADcDADcTAHcZAHcAINcGHAINcKEHEH WITH TWO DOTS ABOVEeTHREE DOT
S BELOWcFARSI YEH WITH INVERTED VfTWO DOTS ABOVEfTHREE DOTS ABOVEbTATWEELbLETTER FEHcQAFcKAFcLAMcMEE
McNOONcHEHcWAWcALEF MAKSURAcYEHbFATHATANbDAMMATANbKASRATANbFATHAbDAMMAbKASRAbSHADDAbSUKUNbMADDAH ABO
VEbHAMZA ABOVEcBELOWbSUBSCRIPT ALEFbINVERTED DAMMAbMARK NOON GHUNNAbZWARAKAYbVOWEL SIGN SMALL V ABOV
EdINVERTED SMALL V ABOVEdDOT BELOWbREVERSED DAMMAbFATHA WITH TWO DOTSbWAVY HAMZA BELOWaARABIC-INDI
C DIGIT ZEROdONEdTWOdTHREEdFOURdFIVEdSIXdSEVENdEIGHTdNINEaARABIC PERCENT SIGNbDECIMAL SEPARATORbTHOU
SANDS SEPARATORbFIVE POINTED STARbLETTER DOTLESS BEHdQAFcSUPERSCRIPT ALEFcALEF WASLAdWITH WAVY HAMZ
A ABOVEgBELOWcHIGH HAMZAdHAMZA ALEFeWAWcU WITH HAMZA ABOVEcHIGH HAMZA YEHcTTEHcTTEHEHcBEEHcTEH WIT
H RINGeTHREE DOTS ABOVE DOWNWARDScPEHcTEHEHcBEHEHcHAH WITH HAMZA ABOVEeTWO DOTS VERTICAL ABOVEcNYEHc
DYEHcHAH WITH THREE DOTS ABOVEcTCHEHcTCHEHEHcDDALcDAL WITH RINGeDOT BELOWfBELOW AND SMALL TAHcDAHALc
DDAHALcDULcDAL WITH THREE DOTS ABOVE DOWNWARDSeFOUR DOTS ABOVEcRREHcREH WITH SMALL VeRINGeDOT BELOWe
SMALL V BELOWeDOT BELOW AND DOT ABOVEeTWO DOTS ABOVEcJEHcREH WITH FOUR DOTS ABOVEcSEEN WITH DOT BELO
W AND DOT ABOVEeTHREE DOTS BELOWgBELOW AND THREE DOTS ABOVEcSAD WITH TWO DOTS BELOWeTHREE DOTS ABOVE
cTAH WITH THREE DOTS ABOVEcAIN WITH THREE DOTS ABOVEcDOTLESS FEHcFEH WITH DOT MOVED BELOWfBELOWcVEHc
FEH WITH THREE DOTS BELOWcPEHEHcQAF WITH DOT ABOVEeTHREE DOTS ABOVEcKEHEHcSWASH KAFcKAF WITH RINGeDO
T ABOVEcNGcKAF WITH THREE DOTS BELOWcGAFcGAF WITH RINGcNGOEHcGAF WITH TWO DOTS BELOWcGUEHcGAF WITH T
HREE DOTS ABOVEcLAM WITH SMALL VeDOT ABOVEeTHREE DOTS ABOVEgBELOWcNOON WITH DOT BELOWdGHUNNAcRNOONcN
OON WITH RINGeTHREE DOTS ABOVEcHEH DOACHASHMEEcTCHEH WITH DOT ABOVEcHEH WITH YEH ABOVEdGOALdGOAL WIT
H HAMZA ABOVEcTEH MARBUTA GOALcWAW WITH RINGcKIRGHIZ OEcOEcUcYUcKIRGHIZ YUcWAW WITH TWO DOTS ABOVEcV
EcFARSI YEHcYEH WITH TAILeSMALL VcWAW WITH DOT ABOVEcEcYEH WITH THREE DOTS BELOWdBARREEdBARREE WIT
H HAMZA ABOVEbFULL STOPbLETTER AEbSMALL HIGH LIGATURE SAD WITH LAM WITH ALEF MAKSURAeQAF WITH LAM WI
TH ALEF MAKSURAdMEEM INITIAL FORMdLAM ALEFdJEEMdTHREE DOTSdSEENbEND OF AYAHbSTART OF RUB EL HIZBbSMA
LL HIGH ROUNDED ZEROdUPRIGHT RECTANGULAR ZEROdDOTLESS HEAD OF KHAHdMEEM ISOLATED FORMcLOW SEENcHIG
H MADDAcWAWcYEHcHIGH YEHdNOONbPLACE OF SAJDAHbEMPTY CENTRE LOW STOPdHIGH STOPbROUNDED HIGH STOP WIT
H FILLED CENTREbSMALL LOW MEEMbLETTER DAL WITH INVERTED VcREH WITH INVERTED VaEXTENDED ARABIC-INDI
C DIGIT ZEROeONEeTWOeTHREEeFOUReFIVEeSIXeSEVENeEIGHTeNINEaARABIC LETTER SHEEN WITH DOT BELOWcDAD WIT
H DOT BELOWcGHAIN WITH DOT BELOWbSIGN SINDHI AMPERSANDdPOSTPOSITION MENbLETTER HEH WITH INVERTED VaS
YRIAC END OF PARAGRAPHbSUPRALINEAR FULL STOPbSUBLINEAR FULL STOPbSUPRALINEAR COLONbSUBLINEAR COLONbH
ORIZONTAL COLONbCOLON SKEWED LEFTdRIGHTbSUPRALINEAR COLON SKEWED LEFTbSUBLINEAR COLON SKEWED RIGHTbC
ONTRACTIONbHARKLEAN OBELUScMETOBELUScASTERISCUS=70FaSYRIAC ABBREVIATION MARKbLETTER ALAPHcSUPERSCRIP
T ALAPHcBETHcGAMALcGAMAL GARSHUNIcDALATHcDOTLESS DALATH RISHcHEcWAWcZAINcHETHcTETHcTETH GARSHUNIcYUD
HcYUDH HEcKAPHcLAMADHcMIMcNUNcSEMKATHcFINAL SEMKATHcEcPEcREVERSED PEcSADHEcQAPHcRISHcSHINcTAWcPERSIA
N BHETHdGHAMALdDHALATHbPTHAHA ABOVEcBELOWcDOTTEDbZQAPHA ABOVEcBELOWcDOTTEDbRBASA ABOVEcBELOWbDOTTE
D ZLAMA HORIZONTALdANGULARbHBASA ABOVEcBELOWbHBASA-ESASA DOTTEDbESASA ABOVEcBELOWbRWAHAbFEMININE DOT
bQUSHSHAYAbRUKKAKHAbTWO VERTICAL DOTS ABOVEeBELOWbTHREE DOTS ABOVEdBELOWbOBLIQUE LINE ABOVEdBELOWbMU
SICbBARREKH=74DaSYRIAC LETTER SOGDIAN ZHAINdKHAPHdFEaARABIC LETTER BEH WITH THREE DOTS HORIZONTALL
Y BELOWeDOT BELOW AND THREE DOTS ABOVEeTHREE DOTS POINTING UPWARDS BELOWiBELOW AND TWO DOTS ABOVEeTW
O DOTS BELOW AND DOT ABOVEeINVERTED SMALL V BELOWeSMALL VcHAH WITH TWO DOTS ABOVEeTHREE DOTS POINTIN
G UPWARDS BELOWcDAL WITH TWO DOTS VERTICALLY BELOW AND SMALL TAHeINVERTED SMALL V BELOWcREH WITH STR
OKEcSEEN WITH FOUR DOTS ABOVEcAIN WITH TWO DOTS ABOVEeTHREE DOTS POINTING DOWNWARDS ABOVEeTWO DOTS V
ERTICALLY ABOVEcFEH WITH TWO DOTS BELOWeTHREE DOTS POINTING UPWARDS BELOWcKEHEH WITH DOT ABOVEeTHRE
E DOTS ABOVEgPOINTING UPWARDS BELOWcMEEM WITH DOT ABOVEfBELOWcNOON WITH TWO DOTS BELOWeSMALL TAHfVcL
AM WITH BARcREH WITH TWO DOTS VERTICALLY ABOVEeHAMZA ABOVEcSEEN WITH TWO DOTS VERTICALLY ABOVEcHAH W
ITH SMALL ARABIC LETTER TAH BELOWiAND TWO DOTScSEEN WITH SMALL ARABIC LETTER TAH AND TWO DOTScREH WI
TH SMALL ARABIC LETTER TAH AND TWO DOTScHAH WITH SMALL ARABIC LETTER TAH ABOVEcALEF WITH EXTENDED AR
ABIC-INDIC DIGIT TWO ABOVEiTHREE ABOVEcFARSI YEH WITH EXTENDED ARABIC-INDIC DIGIT TWO ABOVEjTHREE AB
OVEjFOUR BELOWcWAW WITH EXTENDED ARABIC-INDIC DIGIT TWO ABOVEiTHREE ABOVEcYEH BARREE WITH EXTENDED A
RABIC-INDIC DIGIT TWO ABOVEjTHREE ABOVEcHAH WITH EXTENDED ARABIC-INDIC DIGIT FOUR BELOWcSEEN WITH EX
TENDED ARABIC-INDIC DIGIT FOUR ABOVEeINVERTED VcKAF WITH TWO DOTS ABOVEaTHAANA LETTER HAAcSHAVIYANIc
NOONUcRAAcBAAcLHAVIYANIcKAAFUcALIFUcVAAVUcMEEMUcFAAFUcDHAALUcTHAAcLAAMUcGAAFUcGNAVIYANIcSEENUcDAVIYA
NIcZAVIYANIcTAVIYANIcYAAcPAVIYANIcJAVIYANIcCHAVIYANIcTTAAcHHAAcKHAAcTHAALUcZAAcSHEENUcSAADHUcDAADHUc
TOcZOcAINUcGHAINUcQAAFUcWAAVUbABAFILIbAABAAFILIbIBIFILIbEEBEEFILIbUBUFILIbOOBOOFILIbEBEFILIbEYBEYFIL
IbOBOFILIbOABOAFILIbSUKUNbLETTER NAA=7C0aNKO DIGIT ZEROcONEcTWOcTHREEcFOURcFIVEcSIXcSEVENcEIGHTcNINE
bLETTER AcEEcIcEcUcOOcOcDAGBASINNAcNcBAcPAcTAcJAcCHAcDAcRAcRRAcSAcGBAcFAcKAcLAcNA WOLOSOcMAcNYAcNAcH
AcWAcYAcNYA WOLOSOcJONA JAdCHAdRAbCOMBINING SHORT HIGH TONEdLOW TONEdRISING TONEcLONG DESCENDING TON
EdHIGH TONEdLOW TONEdRISING TONEcNASALIZATION MARKcDOUBLE DOT ABOVEbHIGH TONE APOSTROPHEbLOW TONE AP
OSTROPHEbSYMBOL OO DENNENcGBAKURUNENbCOMMAbEXCLAMATION MARKbLAJANYALAN=7FDaNKO DANTAYALANbDOROME SIG
NbTAMAN SIGNaSAMARITAN LETTER ALAFcBITcGAMANcDALATcIYcBAAcZENcITcTITcYUTcKAAFcLABATcMIMcNUNcSINGAATc
INcFIcTSAADIYcQUFcRISHcSHANcTAAFbMARK INcIN-ALAFcOCCLUSIONcDAGESHbMODIFIER LETTER EPENTHETIC YUTbMAR
K EPENTHETIC YUTbVOWEL SIGN LONG EdEdOVERLONG AAdLONG AAdAAdOVERLONG AdLONG AdAbMODIFIER LETTER SHOR
T AbVOWEL SIGN SHORT AdLONG UdUbMODIFIER LETTER IbVOWEL SIGN LONG IdIdOdSUKUNbMARK NEQUDAA=830aSAMAR
ITAN PUNCTUATION NEQUDAAcAFSAAQcANGEDcBAUcATMAAUcSHIYYAALAAbABBREVIATION MARKbPUNCTUATION MELODIC QI
TSAcZIQAAcQITSAcZAEFcTURUcARKAANUcSOF MASHFAATcANNAAU=840aMANDAIC LETTER HALQAcABcAGcADcAHcUSHENNAcA
ZcITcATTcAKSAcAKcALcAMcANcAScINcAPcASZcAQcARcASHcATcDUSHENNAcKADcAINbAFFRICATION MARKbVOCALIZATION M
ARKbGEMINATION MARK=85EaMANDAIC PUNCTUATION=860aSYRIAC LETTER MALAYALAM NGAdJAdNYAdTTAdNNAdNNNAdBHAd
RAdLLAdLLLAdSSA=870aARABIC LETTER ALEF WITH ATTACHED FATHAfTOP RIGHT FATHAeRIGHT MIDDLE STROKEeLEF
T MIDDLE STROKEeATTACHED KASRAfBOTTOM RIGHT KASRAfROUND DOT ABOVEfRIGHT ROUND DOTfLEFT ROUND DOTfROU
ND DOT BELOWeDOT ABOVEeATTACHED TOP RIGHT FATHA AND DOT ABOVEeRIGHT MIDDLE STROKE AND DOT ABOVEeATTA
CHED BOTTOM RIGHT KASRA AND DOT ABOVEfTOP RIGHT FATHA AND LEFT RINGeRIGHT MIDDLE STROKE AND LEFT RIN
GeATTACHED BOTTOM RIGHT KASRA AND LEFT RINGfRIGHT HAMZAfLEFT HAMZAbTATWEEL WITH OVERSTRUCK HAMZAeWAW
dTWO DOTS BELOWbLETTER THIN YEHbBASELINE ROUND DOTbRAISED ROUND DOTbLETTER NOON WITH INVERTED SMAL
L VcHAH WITH INVERTED SMALL V BELOWcTAH WITH DOT BELOWeTHREE DOTS BELOWcKEHEH WITH TWO DOTS VERTICAL
LY BELOWbVERTICAL TAIL=890aARABIC POUND MARK ABOVEbPIASTRE MARK ABOVE=898aARABIC SMALL HIGH WORD AL-
JUZcLOW WORD ISHMAAMeIMAALAeTASHEELbMADDA WAAJIBbSUPERSCRIPT ALEF MOKHASSASbDOUBLED MADDAbHALF MADD
A OVER MADDAbLETTER BEH WITH SMALL V BELOWeHAMZA ABOVEcJEEM WITH TWO DOTS ABOVEcTAH WITH TWO DOTS AB
OVEcFEH WITH DOT BELOW AND THREE DOTS ABOVEcQAF WITH DOT BELOWcLAM WITH DOUBLE BARcMEEM WITH THREE D
OTS ABOVEcYEH WITH TWO DOTS BELOW AND HAMZA ABOVEiDOT ABOVEcREH WITH LOOPcWAW WITH DOT WITHINcROHING
YA YEHcLOW ALEFcDAL WITH THREE DOTS BELOWcSAD WITH THREE DOTS BELOWcGAF WITH INVERTED STROKEcSTRAIGH
T WAWcZAIN WITH INVERTED V ABOVEcAIN WITH THREE DOTS BELOWcKAF WITH DOT BELOWcQAF WITH DOT BELOW AN
D NO DOTS ABOVEcBEH WITH SMALL MEEM ABOVEcPEH WITH SMALL MEEM ABOVEcTEH WITH SMALL TEH ABOVEcREH WIT
H SMALL NOON ABOVEcYEH WITH TWO DOTS BELOW AND SMALL NOON ABOVEcAFRICAN FEHdQAFdNOONcPEH WITH SMAL
L VcTEH WITH SMALL VcTTEH WITH SMALL VcTCHEH WITH SMALL VcKEHEH WITH SMALL VcGHAIN WITH THREE DOTS A
BOVEcAFRICAN QAF WITH THREE DOTS ABOVEcJEEM WITH THREE DOTS ABOVEgBELOWcLAM WITH SMALL ARABIC LETTE
R TAH ABOVEcGRAFbSMALL FARSI YEHcHIGH FARSI YEHdYEH BARREE WITH TWO DOTS BELOWdWORD SAHdZAHbLARGE RO
UND DOT ABOVEeBELOWbSUKUN BELOWbLARGE CIRCLE BELOWcROUND DOT INSIDE CIRCLE BELOWbSMALL LOW WAWcHIG
H WORD AR-RUBdSADdAINdQAFdNOON WITH KASRAcLOW NOON WITH KASRAcHIGH WORD ATH-THALATHAeAS-SAJDAeAN-NIS
FeSAKTAeQIFeWAQFAdFOOTNOTE MARKERdSIGN SAFHAbDISPUTED END OF AYAHbTURNED DAMMA BELOWbCURLY FATHAcDAM
MAcKASRAcFATHATANcDAMMATANcKASRATANbTONE ONE DOT ABOVEcTWO DOTS ABOVEcLOOP ABOVEcONE DOT BELOWcTWO D
OTS BELOWcLOOP BELOWbOPEN FATHATANcDAMMATANcKASRATANbSMALL HIGH WAWbFATHA WITH RINGdDOT ABOVEbKASR
A WITH DOT BELOWbLEFT ARROWHEAD ABOVEbRIGHT ARROWHEAD ABOVEbLEFT ARROWHEAD BELOWbRIGHT ARROWHEAD BEL
OWbDOUBLE RIGHT ARROWHEAD ABOVEeABOVE WITH DOTbRIGHT ARROWHEAD ABOVE WITH DOTbDAMMA WITH DOTbMARK SI
DEWAYS NOON GHUNNAaDEVANAGARI SIGN INVERTED CANDRABINDUcCANDRABINDUcANUSVARAcVISARGAbLETTER SHORT Ac
AcAAcIcIIcUcUUcVOCALIC RdLcCANDRA EcSHORT EcEcAIcCANDRA OcSHORT OcOcAUcKAcKHAcGAcGHAcNGAcCAcCHAcJAcJ
HAcNYAcTTAcTTHAcDDAcDDHAcNNAcTAcTHAcDAcDHAcNAcNNNAcPAcPHAcBAcBHAcMAcYAcRAcRRAcLAcLLAcLLLAcVAcSHAcSSA
cSAcHAbVOWEL SIGN OEdOOEbSIGN NUKTAcAVAGRAHAbVOWEL SIGN AAdIdIIdUdUUdVOCALIC ReRRdCANDRA EdSHORT EdE
dAIdCANDRA OdSHORT OdOdAUbSIGN VIRAMAbVOWEL SIGN PRISHTHAMATRA EdAWbOMbSTRESS SIGN UDATTAdANUDATTAbG
RAVE ACCENTbACUTE ACCENTbVOWEL SIGN CANDRA LONG EdUEdUUEbLETTER QAcKHHAcGHHAcZAcDDDHAcRHAcFAcYYAcVOC
ALIC RRdLLbVOWEL SIGN VOCALIC LeLLbDANDAbDOUBLE DANDAbDIGIT ZEROcONEcTWOcTHREEcFOURcFIVEcSIXcSEVENcE
IGHTcNINEbABBREVIATION SIGNbSIGN HIGH SPACING DOTbLETTER CANDRA AcOEcOOEcAWcUEcUUEcMARWARI DDAcZHAcH
EAVY YAcGGAcJJAcGLOTTAL STOPcDDDAcBBAaBENGALI ANJIbSIGN CANDRABINDUcANUSVARAcVISARGA=985aBENGALI LET
TER AcAAcIcIIcUcUUcVOCALIC RdL=98FaBENGALI LETTER EcAI=993aBENGALI LETTER OcAUcKAcKHAcGAcGHAcNGAcCAc
CHAcJAcJHAcNYAcTTAcTTHAcDDAcDDHAcNNAcTAcTHAcDAcDHAcNA=9AAaBENGALI LETTER PAcPHAcBAcBHAcMAcYAcRA=9B2a
BENGALI LETTER LA=9B6aBENGALI LETTER SHAcSSAcSAcHA=9BCaBENGALI SIGN NUKTAcAVAGRAHAbVOWEL SIGN AAdIdI
IdUdUUdVOCALIC ReRR=9C7aBENGALI VOWEL SIGN EdAI=9CBaBENGALI VOWEL SIGN OdAUbSIGN VIRAMAbLETTER KHAND
A TA=9D7aBENGALI AU LENGTH MARK=9DCaBENGALI LETTER RRAcRHA=9DFaBENGALI LETTER YYAcVOCALIC RRdLLbVOWE
L SIGN VOCALIC LeLL=9E6aBENGALI DIGIT ZEROcONEcTWOcTHREEcFOURcFIVEcSIXcSEVENcEIGHTcNINEbLETTER RA WI
TH MIDDLE DIAGONALeLOWER DIAGONALbRUPEE MARKcSIGNbCURRENCY NUMERATOR ONEdTWOdTHREEdFOURdONE LESS THA
N THE DENOMINATORcDENOMINATOR SIXTEENbISSHARbGANDA MARKbLETTER VEDIC ANUSVARAbABBREVIATION SIGNbSAND
HI MARK=A01aGURMUKHI SIGN ADAK BINDIcBINDIcVISARGA=A05aGURMUKHI LETTER AcAAcIcIIcUcUU=A0FaGURMUKHI L
ETTER EEcAI=A13aGURMUKHI LETTER OOcAUcKAcKHAcGAcGHAcNGAcCAcCHAcJAcJHAcNYAcTTAcTTHAcDDAcDDHAcNNAcTAcT
HAcDAcDHAcNA=A2AaGURMUKHI LETTER PAcPHAcBAcBHAcMAcYAcRA=A32aGURMUKHI LETTER LAcLLA=A35aGURMUKHI LETT
ER VAcSHA=A38aGURMUKHI LETTER SAcHA=A3CaGURMUKHI SIGN NUKTA=A3EaGURMUKHI VOWEL SIGN AAdIdIIdUdUU=A47
aGURMUKHI VOWEL SIGN EEdAI=A4BaGURMUKHI VOWEL SIGN OOdAUbSIGN VIRAMA=A51aGURMUKHI SIGN UDAAT=A59aGUR
MUKHI LETTER KHHAcGHHAcZAcRRA=A5EaGURMUKHI LETTER FA=A66aGURMUKHI DIGIT ZEROcONEcTWOcTHREEcFOURcFIVE
cSIXcSEVENcEIGHTcNINEbTIPPIbADDAKbIRIbURAbEK ONKARbSIGN YAKASHbABBREVIATION SIGN=A81aGUJARATI SIGN C
ANDRABINDUcANUSVARAcVISARGA=A85aGUJARATI LETTER AcAAcIcIIcUcUUcVOCALIC RdLbVOWEL CANDRA E=A8FaGUJARA
TI LETTER EcAIbVOWEL CANDRA O=A93aGUJARATI LETTER OcAUcKAcKHAcGAcGHAcNGAcCAcCHAcJAcJHAcNYAcTTAcTTHAc
DDAcDDHAcNNAcTAcTHAcDAcDHAcNA=AAAaGUJARATI LETTER PAcPHAcBAcBHAcMAcYAcRA=AB2aGUJARATI LETTER LAcLLA=
AB5aGUJARATI LETTER VAcSHAcSSAcSAcHA=ABCaGUJARATI SIGN NUKTAcAVAGRAHAbVOWEL SIGN AAdIdIIdUdUUdVOCALI
C ReRRdCANDRA E=AC7aGUJARATI VOWEL SIGN EdAIdCANDRA O=ACBaGUJARATI VOWEL SIGN OdAUbSIGN VIRAMA=AD0aG
UJARATI OM=AE0aGUJARATI LETTER VOCALIC RRdLLbVOWEL SIGN VOCALIC LeLL=AE6aGUJARATI DIGIT ZEROcONEcTWO
cTHREEcFOURcFIVEcSIXcSEVENcEIGHTcNINEbABBREVIATION SIGNbRUPEE SIGN=AF9aGUJARATI LETTER ZHAbSIGN SUKU
NcSHADDAcMADDAHcTHREE-DOT NUKTA ABOVEcCIRCLE NUKTA ABOVEcTWO-CIRCLE NUKTA ABOVE=B01aORIYA SIGN CANDR
ABINDUcANUSVARAcVISARGA=B05aORIYA LETTER AcAAcIcIIcUcUUcVOCALIC RdL=B0FaORIYA LETTER EcAI=B13aORIY
A LETTER OcAUcKAcKHAcGAcGHAcNGAcCAcCHAcJAcJHAcNYAcTTAcTTHAcDDAcDDHAcNNAcTAcTHAcDAcDHAcNA=B2AaORIYA L
ETTER PAcPHAcBAcBHAcMAcYAcRA=B32aORIYA LETTER LAcLLA=B35aORIYA LETTER VAcSHAcSSAcSAcHA=B3CaORIYA SIG
N NUKTAcAVAGRAHAbVOWEL SIGN AAdIdIIdUdUUdVOCALIC ReRR=B47aORIYA VOWEL SIGN EdAI=B4BaORIYA VOWEL SIG
N OdAUbSIGN VIRAMA=B55aORIYA SIGN OVERLINEbAI LENGTH MARKbAU LENGTH MARK=B5CaORIYA LETTER RRAcRHA=B5
FaORIYA LETTER YYAcVOCALIC RRdLLbVOWEL SIGN VOCALIC LeLL=B66aORIYA DIGIT ZEROcONEcTWOcTHREEcFOURcFIV
EcSIXcSEVENcEIGHTcNINEbISSHARbLETTER WAbFRACTION ONE QUARTERdHALFcTHREE QUARTERScONE SIXTEENTHdEIGHT
HcTHREE SIXTEENTHS=B82aTAMIL SIGN ANUSVARAcVISARGA=B85aTAMIL LETTER AcAAcIcIIcUcUU=B8EaTAMIL LETTE
R EcEEcAI=B92aTAMIL LETTER OcOOcAUcKA=B99aTAMIL LETTER NGAcCA=B9CaTAMIL LETTER JA=B9EaTAMIL LETTER N
YAcTTA=BA3aTAMIL LETTER NNAcTA=BA8aTAMIL LETTER NAcNNNAcPA=BAEaTAMIL LETTER MAcYAcRAcRRAcLAcLLAcLLLA
cVAcSHAcSSAcSAcHA=BBEaTAMIL VOWEL SIGN AAdIdIIdUdUU=BC6aTAMIL VOWEL SIGN EdEEdAI=BCAaTAMIL VOWEL SIG
N OdOOdAUbSIGN VIRAMA=BD0aTAMIL OM=BD7aTAMIL AU LENGTH MARK=BE6aTAMIL DIGIT ZEROcONEcTWOcTHREEcFOURc
FIVEcSIXcSEVENcEIGHTcNINEbNUMBER TENcONE HUNDREDdTHOUSANDbDAY SIGNbMONTH SIGNbYEAR SIGNbDEBIT SIGNbC
REDIT SIGNbAS ABOVE SIGNbRUPEE SIGNbNUMBER SIGN=C00aTELUGU SIGN COMBINING CANDRABINDU ABOVEcCANDRABI
NDUcANUSVARAcVISARGAcCOMBINING ANUSVARA ABOVEbLETTER AcAAcIcIIcUcUUcVOCALIC RdL=C0EaTELUGU LETTER Ec
EEcAI=C12aTELUGU LETTER OcOOcAUcKAcKHAcGAcGHAcNGAcCAcCHAcJAcJHAcNYAcTTAcTTHAcDDAcDDHAcNNAcTAcTHAcDAc
DHAcNA=C2AaTELUGU LETTER PAcPHAcBAcBHAcMAcYAcRAcRRAcLAcLLAcLLLAcVAcSHAcSSAcSAcHA=C3CaTELUGU SIGN NUK
TAcAVAGRAHAbVOWEL SIGN AAdIdIIdUdUUdVOCALIC ReRR=C46aTELUGU VOWEL SIGN EdEEdAI=C4AaTELUGU VOWEL SIG
N OdOOdAUbSIGN VIRAMA=C55aTELUGU LENGTH MARKbAI LENGTH MARK=C58aTELUGU LETTER TSAcDZAcRRRA=C5DaTELUG
U LETTER NAKAARA POLLU=C60aTELUGU LETTER VOCALIC RRdLLbVOWEL SIGN VOCALIC LeLL=C66aTELUGU DIGIT ZERO
cONEcTWOcTHREEcFOURcFIVEcSIXcSEVENcEIGHTcNINE=C77aTELUGU SIGN SIDDHAMbFRACTION DIGIT ZERO FOR ODD PO
WERS OF FOURdONE FOR ODD POWERS OF FOURdTWO FOR ODD POWERS OF FOURdTHREE FOR ODD POWERS OF FOURdON
E FOR EVEN POWERS OF FOURdTWO FOR EVEN POWERS OF FOURdTHREE FOR EVEN POWERS OF FOURbSIGN TUUMUaKANNA
DA SIGN SPACING CANDRABINDUcCANDRABINDUcANUSVARAcVISARGAcSIDDHAMbLETTER AcAAcIcIIcUcUUcVOCALIC RdL=C
8EaKANNADA LETTER EcEEcAI=C92aKANNADA LETTER OcOOcAUcKAcKHAcGAcGHAcNGAcCAcCHAcJAcJHAcNYAcTTAcTTHAcDD
AcDDHAcNNAcTAcTHAcDAcDHAcNA=CAAaKANNADA LETTER PAcPHAcBAcBHAcMAcYAcRAcRRAcLAcLLA=CB5aKANNADA LETTE
R VAcSHAcSSAcSAcHA=CBCaKANNADA SIGN NUKTAcAVAGRAHAbVOWEL SIGN AAdIdIIdUdUUdVOCALIC ReRR=CC6aKANNAD
A VOWEL SIGN EdEEdAI=CCAaKANNADA VOWEL SIGN OdOOdAUbSIGN VIRAMA=CD5aKANNADA LENGTH MARKbAI LENGTH MA
RK=CDDaKANNADA LETTER NAKAARA POLLUcFA=CE0aKANNADA LETTER VOCALIC RRdLLbVOWEL SIGN VOCALIC LeLL=CE6a
KANNADA DIGIT ZEROcONEcTWOcTHREEcFOURcFIVEcSIXcSEVENcEIGHTcNINE=CF1aKANNADA SIGN JIHVAMULIYAcUPADHMA
NIYA=D00aMALAYALAM SIGN COMBINING ANUSVARA ABOVEcCANDRABINDUcANUSVARAcVISARGAbLETTER VEDIC ANUSVARAc
AcAAcIcIIcUcUUcVOCALIC RdL=D0EaMALAYALAM LETTER EcEEcAI=D12aMALAYALAM LETTER OcOOcAUcKAcKHAcGAcGHAcN
GAcCAcCHAcJAcJHAcNYAcTTAcTTHAcDDAcDDHAcNNAcTAcTHAcDAcDHAcNAcNNNAcPAcPHAcBAcBHAcMAcYAcRAcRRAcLAcLLAcL
LLAcVAcSHAcSSAcSAcHAcTTTAbSIGN VERTICAL BAR VIRAMAcCIRCULAR VIRAMAcAVAGRAHAbVOWEL SIGN AAdIdIIdUdUUd
VOCALIC ReRR=D46aMALAYALAM VOWEL SIGN EdEEdAI=D4AaMALAYALAM VOWEL SIGN OdOOdAUbSIGN VIRAMAbLETTER DO
T REPHbSIGN PARA=D54aMALAYALAM LETTER CHILLU MdYdLLLbAU LENGTH MARKbFRACTION ONE ONE-HUNDRED-AND-SIX
TIETHdFORTIETHcTHREE EIGHTIETHScONE TWENTIETHdTENTHcTHREE TWENTIETHScONE FIFTHbLETTER ARCHAIC IIcVOC
ALIC RRdLLbVOWEL SIGN VOCALIC LeLL=D66aMALAYALAM DIGIT ZEROcONEcTWOcTHREEcFOURcFIVEcSIXcSEVENcEIGHTc
NINEbNUMBER TENcONE HUNDREDdTHOUSANDbFRACTION ONE QUARTERdHALFcTHREE QUARTERScONE SIXTEENTHdEIGHTHcT
HREE SIXTEENTHSbDATE MARKbLETTER CHILLU NNdNdRRdLdLLdK=D81aSINHALA SIGN CANDRABINDUcANUSVARAYAcVISAR
GAYA=D85aSINHALA LETTER AYANNAcAAYANNAcAEYANNAcAEEYANNAcIYANNAcIIYANNAcUYANNAcUUYANNAcIRUYANNAcIRUUY
ANNAcILUYANNAcILUUYANNAcEYANNAcEEYANNAcAIYANNAcOYANNAcOOYANNAcAUYANNA=D9AaSINHALA LETTER ALPAPRAAN
A KAYANNAcMAHAAPRAANA KAYANNAcALPAPRAANA GAYANNAcMAHAAPRAANA GAYANNAcKANTAJA NAASIKYAYAcSANYAKA GAYA
NNAcALPAPRAANA CAYANNAcMAHAAPRAANA CAYANNAcALPAPRAANA JAYANNAcMAHAAPRAANA JAYANNAcTAALUJA NAASIKYAYA
dSANYOOGA NAAKSIKYAYAcSANYAKA JAYANNAcALPAPRAANA TTAYANNAcMAHAAPRAANA TTAYANNAcALPAPRAANA DDAYANNAcM
AHAAPRAANA DDAYANNAcMUURDHAJA NAYANNAcSANYAKA DDAYANNAcALPAPRAANA TAYANNAcMAHAAPRAANA TAYANNAcALPAPR
AANA DAYANNAcMAHAAPRAANA DAYANNAcDANTAJA NAYANNA=DB3aSINHALA LETTER SANYAKA DAYANNAcALPAPRAANA PAYAN
NAcMAHAAPRAANA PAYANNAcALPAPRAANA BAYANNAcMAHAAPRAANA BAYANNAcMAYANNAcAMBA BAYANNAcYAYANNAcRAYANNA=D
BDaSINHALA LETTER DANTAJA LAYANNA=DC0aSINHALA LETTER VAYANNAcTAALUJA SAYANNAcMUURDHAJA SAYANNAcDANTA
JA SAYANNAcHAYANNAcMUURDHAJA LAYANNAcFAYANNA=DCAaSINHALA SIGN AL-LAKUNA=DCFaSINHALA VOWEL SIGN AELA-
PILLAdKETTI AEDA-PILLAdDIGA AEDA-PILLAdKETTI IS-PILLAdDIGA IS-PILLAdKETTI PAA-PILLA=DD6aSINHALA VOWE
L SIGN DIGA PAA-PILLA=DD8aSINHALA VOWEL SIGN GAETTA-PILLAdKOMBUVAdDIGA KOMBUVAdKOMBU DEKAdKOMBUVA HA
A AELA-PILLAfDIGA AELA-PILLAfGAYANUKITTAdGAYANUKITTA=DE6aSINHALA LITH DIGIT ZEROdONEdTWOdTHREEdFOURd
FIVEdSIXdSEVENdEIGHTdNINE=DF2aSINHALA VOWEL SIGN DIGA GAETTA-PILLAeGAYANUKITTAbPUNCTUATION KUNDDALIY
A=E01aTHAI CHARACTER KO KAIcKHO KHAIdKHUATdKHWAIdKHONdRAKHANGcNGO NGUcCHO CHANdCHINGdCHANGcSO SOcCH
O CHOEcYO YINGcDO CHADAcTO PATAKcTHO THANdNANGMONTHOdPHUTHAOcNO NENcDO DEKcTO TAOcTHO THUNGdTHAHANdT
HONGcNO NUcBO BAIMAIcPO PLAcPHO PHUNGcFO FAcPHO PHANcFO FANcPHO SAMPHAOcMO MAcYO YAKcRO RUAcRUcLO LI
NGcLUcWO WAENcSO SALAdRUSIdSUAcHO HIPcLO CHULAcO ANGcHO NOKHUKcPAIYANNOIcSARA AcMAI HAN-AKATcSARA AA
dAMdIdIIdUEdUEEdUdUUcPHINTHU=E3FaTHAI CURRENCY SYMBOL BAHTbCHARACTER SARA EdAEdOdAI MAIMUANeMAIMALAI
cLAKKHANGYAOcMAIYAMOKcMAITAIKHUcMAI EKdTHOdTRIdCHATTAWAcTHANTHAKHATcNIKHAHITcYAMAKKANcFONGMANbDIGI
T ZEROcONEcTWOcTHREEcFOURcFIVEcSIXcSEVENcEIGHTcNINEbCHARACTER ANGKHANKHUcKHOMUT=E81aLAO LETTER KOcKH
O SUNG=E84aLAO LETTER KHO TAM=E86aLAO LETTER PALI GHAcNGOcCOcPALI CHAcSO TAM=E8CaLAO LETTER PALI JHA
cNYOcPALI NYAdTTAdTTHAdDDAdDDHAdNNAcDOcTOcTHO SUNGdTAMcPALI DHAcNOcBOcPOcPHO SUNGcFO TAMcPHO TAMcF
O SUNGcPALI BHAcMOcYOcLO LING=EA5aLAO LETTER LO LOOT=EA7aLAO LETTER WOcSANSKRIT SHAdSSAcSO SUNGcHO S
UNGcPALI LLAcOcHO TAMbELLIPSISbVOWEL SIGN AdMAI KANdAAdAMdIdIIdYdYYdUdUUbSIGN PALI VIRAMAbVOWEL SIG
N MAI KONbSEMIVOWEL SIGN LOdNYO=EC0aLAO VOWEL SIGN EdEIdOdAYdAI=EC6aLAO KO LA=EC8aLAO TONE MAI EKdTH
OdTIdCATAWAbCANCELLATION MARKbNIGGAHITA=ED0aLAO DIGIT ZEROcONEcTWOcTHREEcFOURcFIVEcSIXcSEVENcEIGHTcN
INE=EDCaLAO HO NOcMObLETTER KHMU GOdNYO=F00aTIBETAN SYLLABLE OMbMARK GTER YIG MGO TRUNCATED Af-UM RN
AM BCAD MAhGTER TSHEG MAcINITIAL YIG MGO MDUN MAcCLOSING YIG MGO SGAB MAcCARET YIG MGO PHUR SHAD MAc
YIG MGO TSHEG SHAD MAcSBRUL SHADcBSKUR YIG MGOcBKA- SHOG YIG MGOcINTERSYLLABIC TSHEGcDELIMITER TSHE
G BSTARcSHADcNYIS SHADcTSHEG SHADcNYIS TSHEG SHADcRIN CHEN SPUNGS SHADcRGYA GRAM SHADcCARET -DZUD RT
AGS ME LONG CANcGTER TSHEGbLOGOTYPE SIGN CHAD RTAGSdLHAG RTAGSbASTROLOGICAL SIGN SGRA GCAN -CHAR RTA
GSd-KHYUD PAdSDONG TSHUGSbSIGN RDEL DKAR GCIGeGNYISeGSUMdNAG GCIGeGNYISdDKAR RDEL NAGbDIGIT ZEROcONE
cTWOcTHREEcFOURcFIVEcSIXcSEVENcEIGHTcNINEcHALF ONEdTWOdTHREEdFOURdFIVEdSIXdSEVENdEIGHTdNINEdZERObMAR
K BSDUS RTAGScNGAS BZUNG NYI ZLAcCARET -DZUD RTAGS BZHI MIG CANcNGAS BZUNG SGOR RTAGScCHE MGOcTSA -P
HRUcGUG RTAGS GYONeGYAScANG KHANG GYONeGYASbSIGN YAR TSHEScMAR TSHESbLETTER KAcKHAcGAcGHAcNGAcCAcCHA
cJA=F49aTIBETAN LETTER NYAcTTAcTTHAcDDAcDDHAcNNAcTAcTHAcDAcDHAcNAcPAcPHAcBAcBHAcMAcTSAcTSHAcDZAcDZHA
cWAcZHAcZAc-AcYAcRAcLAcSHAcSSAcSAcHAcAcKSSAcFIXED-FORM RAcKKAcRRA=F71aTIBETAN VOWEL SIGN AAdIdIIdUdU
UdVOCALIC ReRReLeLLdEdEEdOdOObSIGN RJES SU NGA ROcRNAM BCADbVOWEL SIGN REVERSED IeIIbSIGN NYI ZLA NA
A DAcSNA LDANbMARK HALANTAcPALUTAbSIGN LCI RTAGScYANG RTAGScLCE TSA CANcMCHU CANcGRU CAN RGYINGSdME
D RGYINGScINVERTED MCHU CANbSUBJOINED SIGN LCE TSA CANdMCHU CANdINVERTED MCHU CANcLETTER KAdKHAdGAdG
HAdNGAdCAdCHAdJA=F99aTIBETAN SUBJOINED LETTER NYAdTTAdTTHAdDDAdDDHAdNNAdTAdTHAdDAdDHAdNAdPAdPHAdBAdB
HAdMAdTSAdTSHAdDZAdDZHAdWAdZHAdZAd-AdYAdRAdLAdSHAdSSAdSAdHAdAdKSSAdFIXED-FORM WAfYAfRA=FBEaTIBETAN K
U RU KHAdKHA BZHI MIG CANbCANTILLATION SIGN HEAVY BEATdLIGHT BEATdCANG TE-UdSBUB -CHALbSYMBOL DRIL B
UcRDO RJEcPADMA GDANcRDO RJE RGYA GRAMcPHUR PAcNOR BUdBU NYIS -KHYILeGSUM -KHYILeBZHI -KHYIL=FCEaTIB
ETAN SIGN RDEL NAG RDEL DKAReGSUMbMARK BSKA- SHOG GI MGO RGYANcMNYAM YIG GI MGO RGYANcNYIS TSHEGcINI
TIAL BRDA RNYING YIG MGO MDUN MAcCLOSING BRDA RNYING YIG MGO SGAB MAaRIGHT-FACING SVASTI SIGNaLEFT-F
ACING SVASTI SIGNaRIGHT-FACING SVASTI SIGN WITH DOTSaLEFT-FACING SVASTI SIGN WITH DOTSaTIBETAN MAR
K LEADING MCHAN RTAGScTRAILING MCHAN RTAGS=1000aMYANMAR LETTER KAcKHAcGAcGHAcNGAcCAcCHAcJAcJHAcNYAcN
NYAcTTAcTTHAcDDAcDDHAcNNAcTAcTHAcDAcDHAcNAcPAcPHAcBAcBHAcMAcYAcRAcLAcWAcSAcHAcLLAcAcSHAN AcIcIIcUcUU
cEcMON EcOcAUbVOWEL SIGN TALL AAdAAdIdIIdUdUUdEdAIdMON IIeOdE ABOVEbSIGN ANUSVARAcDOT BELOWcVISARGAc
VIRAMAcASATbCONSONANT SIGN MEDIAL YAeRAeWAeHAbLETTER GREAT SAbDIGIT ZEROcONEcTWOcTHREEcFOURcFIVEcSIX
cSEVENcEIGHTcNINEbSIGN LITTLE SECTIONcSECTIONbSYMBOL LOCATIVEcCOMPLETEDcAFOREMENTIONEDcGENITIVEbLETT
ER SHAcSSAcVOCALIC RdRRdLdLLbVOWEL SIGN VOCALIC ReRReLeLLbLETTER MON NGAdJHAdBBAdBBEbCONSONANT SIG
N MON MEDIAL NAfMAfLAbLETTER SGAW KAREN SHAbVOWEL SIGN SGAW KAREN EUbTONE MARK SGAW KAREN HATHIfKE P
HObLETTER WESTERN PWO KAREN THAfPWAbVOWEL SIGN WESTERN PWO KAREN EUgUEbSIGN WESTERN PWO KAREN TONE-1
g2g3g4g5bLETTER EASTERN PWO KAREN NNAfYWAfGHWAbVOWEL SIGN GEBA KAREN IdKAYAH OEeUeEEbLETTER SHAN KAd
KHAdGAdCAdZAdNYAdDAdNAdPHAdFAdBAdTHAdHAbCONSONANT SIGN SHAN MEDIAL WAbVOWEL SIGN SHAN AAeEeE ABOVEeF
INAL YbSIGN SHAN TONE-2e3e5e6dCOUNCIL TONE-2f3eEMPHATIC TONEbLETTER RUMAI PALAUNG FAbSIGN RUMAI PALA
UNG TONE-5bSHAN DIGIT ZEROdONEdTWOdTHREEdFOURdFIVEdSIXdSEVENdEIGHTdNINEbSIGN KHAMTI TONE-1e3bVOWEL S
IGN AITON AeAIbSYMBOL SHAN ONEdEXCLAMATIONaGEORGIAN CAPITAL LETTER ANdBANdGANdDONdENdVINdZENdTANdINd
KANdLASdMANdNARdONdPARdZHARdRAEdSANdTARdUNdPHARdKHARdGHANdQARdSHINdCHINdCANdJILdCILdCHARdXANdJHANdHA
EdHEdHIEdWEdHARdHOE=10C7aGEORGIAN CAPITAL LETTER YN=10CDaGEORGIAN CAPITAL LETTER AEN=10D0aGEORGIAN L
ETTER ANcBANcGANcDONcENcVINcZENcTANcINcKANcLAScMANcNARcONcPARcZHARcRAEcSANcTARcUNcPHARcKHARcGHANcQAR
cSHINcCHINcCANcJILcCILcCHARcXANcJHANcHAEcHEcHIEcWEcHARcHOEcFIcYNcELIFIcTURNED GANcAINbPARAGRAPH SEPA
RATORaMODIFIER LETTER GEORGIAN NARaGEORGIAN LETTER AENcHARD SIGNcLABIAL SIGNaHANGUL CHOSEONG KIYEOKc
SSANGKIYEOKcNIEUNcTIKEUTcSSANGTIKEUTcRIEULcMIEUMcPIEUPcSSANGPIEUPcSIOScSSANGSIOScIEUNGcCIEUCcSSANGCI
EUCcCHIEUCHcKHIEUKHcTHIEUTHcPHIEUPHcHIEUHcNIEUN-KIYEOKcSSANGNIEUNcNIEUN-TIKEUTdPIEUPcTIKEUT-KIYEOKcR
IEUL-NIEUNcSSANGRIEULcRIEUL-HIEUHcKAPYEOUNRIEULcMIEUM-PIEUPcKAPYEOUNMIEUMcPIEUP-KIYEOKdNIEUNdTIKEUTd
SIOSdSIOS-KIYEOKeTIKEUTePIEUPdSSANGSIOSdSIOS-CIEUCdCIEUCdCHIEUCHdTHIEUTHdPHIEUPHcKAPYEOUNPIEUPcKAPYE
OUNSSANGPIEUPcSIOS-KIYEOKdNIEUNdTIKEUTdRIEULdMIEUMdPIEUPdPIEUP-KIYEOKdSSANGSIOSdIEUNGdCIEUCdCHIEUCHd
KHIEUKHdTHIEUTHdPHIEUPHdHIEUHcCHITUEUMSIOScCHITUEUMSSANGSIOScCEONGCHIEUMSIOScCEONGCHIEUMSSANGSIOScPA
NSIOScIEUNG-KIYEOKdTIKEUTdMIEUMdPIEUPdSIOSdPANSIOScSSANGIEUNGcIEUNG-CIEUCdCHIEUCHdTHIEUTHdPHIEUPHcYE
SIEUNGcCIEUC-IEUNGcCHITUEUMCIEUCcCHITUEUMSSANGCIEUCcCEONGCHIEUMCIEUCcCEONGCHIEUMSSANGCIEUCcCHIEUCH-K
HIEUKHdHIEUHcCHITUEUMCHIEUCHcCEONGCHIEUMCHIEUCHcPHIEUPH-PIEUPcKAPYEOUNPHIEUPHcSSANGHIEUHcYEORINHIEUH
cKIYEOK-TIKEUTcNIEUN-SIOSdCIEUCdHIEUHcTIKEUT-RIEULcFILLERbJUNGSEONG FILLERcAcAEcYAcYAEcEOcEcYEOcYEcO
cWAcWAEcOEcYOcUcWEOcWEcWIcYUcEUcYIcIcA-OdUcYA-OdYOcEO-OdUdEUcYEO-OdUcO-EOdEdYEdOdUcYO-YAdYAEdYEOdOdI
cU-AdAEdEO-EUdYEdUcYU-AdEOdEdYEOdYEdUdIcEU-UdEUcYI-UcI-AdYAdOdUdEUdARAEAcARAEAcARAEA-EOdUdIcSSANGARA
EAcA-EUcYA-UcYEO-YAcO-YAdYAEbJONGSEONG KIYEOKcSSANGKIYEOKcKIYEOK-SIOScNIEUNcNIEUN-CIEUCdHIEUHcTIKEUT
cRIEULcRIEUL-KIYEOKdMIEUMdPIEUPdSIOSdTHIEUTHdPHIEUPHdHIEUHcMIEUMcPIEUPcPIEUP-SIOScSIOScSSANGSIOScIEU
NGcCIEUCcCHIEUCHcKHIEUKHcTHIEUTHcPHIEUPHcHIEUHcKIYEOK-RIEULdSIOS-KIYEOKcNIEUN-KIYEOKdTIKEUTdSIOSdPAN
SIOSdTHIEUTHcTIKEUT-KIYEOKdRIEULcRIEUL-KIYEOK-SIOSdNIEUNdTIKEUTdTIKEUT-HIEUHcSSANGRIEULcRIEUL-MIEUM-
KIYEOKeSIOSdPIEUP-SIOSeHIEUHdKAPYEOUNPIEUPdSSANGSIOSdPANSIOSdKHIEUKHdYEORINHIEUHcMIEUM-KIYEOKdRIEULd
PIEUPdSIOSdSSANGSIOSdPANSIOSdCHIEUCHdHIEUHcKAPYEOUNMIEUMcPIEUP-RIEULdPHIEUPHdHIEUHcKAPYEOUNPIEUPcSIO
S-KIYEOKdTIKEUTdRIEULdPIEUPcPANSIOScIEUNG-KIYEOKdSSANGKIYEOKcSSANGIEUNGcIEUNG-KHIEUKHcYESIEUNGcYESIE
UNG-SIOSdPANSIOScPHIEUPH-PIEUPcKAPYEOUNPHIEUPHcHIEUH-NIEUNdRIEULdMIEUMdPIEUPcYEORINHIEUHcKIYEOK-NIEU
NdPIEUPdCHIEUCHdKHIEUKHdHIEUHcSSANGNIEUNaETHIOPIC SYLLABLE HAcHUcHIcHAAcHEEcHEcHOcHOAcLAcLUcLIcLAAcL
EEcLEcLOcLWAcHHAcHHUcHHIcHHAAcHHEEcHHEcHHOcHHWAcMAcMUcMIcMAAcMEEcMEcMOcMWAcSZAcSZUcSZIcSZAAcSZEEcSZE
cSZOcSZWAcRAcRUcRIcRAAcREEcREcROcRWAcSAcSUcSIcSAAcSEEcSEcSOcSWAcSHAcSHUcSHIcSHAAcSHEEcSHEcSHOcSHWAcQ
AcQUcQIcQAAcQEEcQEcQOcQOAcQWA=124AaETHIOPIC SYLLABLE QWIcQWAAcQWEEcQWE=1250aETHIOPIC SYLLABLE QHAcQH
UcQHIcQHAAcQHEEcQHEcQHO=1258aETHIOPIC SYLLABLE QHWA=125AaETHIOPIC SYLLABLE QHWIcQHWAAcQHWEEcQHWE=126
0aETHIOPIC SYLLABLE BAcBUcBIcBAAcBEEcBEcBOcBWAcVAcVUcVIcVAAcVEEcVEcVOcVWAcTAcTUcTIcTAAcTEEcTEcTOcTWA
cCAcCUcCIcCAAcCEEcCEcCOcCWAcXAcXUcXIcXAAcXEEcXEcXOcXOAcXWA=128AaETHIOPIC SYLLABLE XWIcXWAAcXWEEcXWE=
1290aETHIOPIC SYLLABLE NAcNUcNIcNAAcNEEcNEcNOcNWAcNYAcNYUcNYIcNYAAcNYEEcNYEcNYOcNYWAcGLOTTAL AdUdIdA
AdEEdEdOdWAcKAcKUcKIcKAAcKEEcKEcKOcKOAcKWA=12B2aETHIOPIC SYLLABLE KWIcKWAAcKWEEcKWE=12B8aETHIOPIC SY
LLABLE KXAcKXUcKXIcKXAAcKXEEcKXEcKXO=12C0aETHIOPIC SYLLABLE KXWA=12C2aETHIOPIC SYLLABLE KXWIcKXWAAcK
XWEEcKXWE=12C8aETHIOPIC SYLLABLE WAcWUcWIcWAAcWEEcWEcWOcWOAcPHARYNGEAL AdUdIdAAdEEdEdO=12D8aETHIOPI
C SYLLABLE ZAcZUcZIcZAAcZEEcZEcZOcZWAcZHAcZHUcZHIcZHAAcZHEEcZHEcZHOcZHWAcYAcYUcYIcYAAcYEEcYEcYOcYOAc
DAcDUcDIcDAAcDEEcDEcDOcDWAcDDAcDDUcDDIcDDAAcDDEEcDDEcDDOcDDWAcJAcJUcJIcJAAcJEEcJEcJOcJWAcGAcGUcGIcGA
AcGEEcGEcGOcGOAcGWA=1312aETHIOPIC SYLLABLE GWIcGWAAcGWEEcGWE=1318aETHIOPIC SYLLABLE GGAcGGUcGGIcGGAA
cGGEEcGGEcGGOcGGWAAcTHAcTHUcTHIcTHAAcTHEEcTHEcTHOcTHWAcCHAcCHUcCHIcCHAAcCHEEcCHEcCHOcCHWAcPHAcPHUcPH
IcPHAAcPHEEcPHEcPHOcPHWAcTSAcTSUcTSIcTSAAcTSEEcTSEcTSOcTSWAcTZAcTZUcTZIcTZAAcTZEEcTZEcTZOcTZOAcFAcFU
cFIcFAAcFEEcFEcFOcFWAcPAcPUcPIcPAAcPEEcPEcPOcPWAcRYAcMYAcFYA=135DaETHIOPIC COMBINING GEMINATION AN
D VOWEL LENGTH MARKcVOWEL LENGTH MARKcGEMINATION MARKbSECTION MARKbWORDSPACEbFULL STOPbCOMMAbSEMICOL
ONbCOLONbPREFACE COLONbQUESTION MARKbPARAGRAPH SEPARATORbDIGIT ONEcTWOcTHREEcFOURcFIVEcSIXcSEVENcEIG
HTcNINEbNUMBER TENcTWENTYcTHIRTYcFORTYcFIFTYcSIXTYcSEVENTYcEIGHTYcNINETYcHUNDREDcTEN THOUSAND=1380aE
THIOPIC SYLLABLE SEBATBEIT MWAcMWIcMWEEcMWEcSEBATBEIT BWAcBWIcBWEEcBWEcSEBATBEIT FWAcFWIcFWEEcFWEcSE
BATBEIT PWAcPWIcPWEEcPWEbTONAL MARK YIZETdDERETdRIKRIKdSHORT RIKRIKdDIFATdKENATdCHIRETdHIDETdDERET-H
IDETdKURT=13A0aCHEROKEE LETTER AcEcIcOcUcVcGAcKAcGEcGIcGOcGUcGVcHAcHEcHIcHOcHUcHVcLAcLEcLIcLOcLUcLVc
MAcMEcMIcMOcMUcNAcHNAcNAHcNEcNIcNOcNUcNVcQUAcQUEcQUIcQUOcQUUcQUVcSAcScSEcSIcSOcSUcSVcDAcTAcDEcTEcDIc
TIcDOcDUcDVcDLAcTLAcTLEcTLIcTLOcTLUcTLVcTSAcTSEcTSIcTSOcTSUcTSVcWAcWEcWIcWOcWUcWVcYAcYEcYIcYOcYUcYVc
MV=13F8aCHEROKEE SMALL LETTER YEdYIdYOdYUdYVdMV=1400aCANADIAN SYLLABICS HYPHENcEcAAIcIcIIcOcOOcY-CRE
E OOcCARRIER EEdIcAcAAcWEcWEST-CREE WEcWIcWEST-CREE WIcWIIcWEST-CREE WIIcWOcWEST-CREE WOcWOOcWEST-CR
EE WOOcNASKAPI WOOcWAcWEST-CREE WAcWAAcWEST-CREE WAAcNASKAPI WAAcAIcY-CREE WcGLOTTAL STOPcFINAL ACUT
EdGRAVEdBOTTOM HALF RINGdTOP HALF RINGdRIGHT HALF RINGdRINGdDOUBLE ACUTEeSHORT VERTICAL STROKESdMIDD
LE DOTdSHORT HORIZONTAL STROKEdPLUSdDOWN TACKcENcINcONcANcPEcPAAIcPIcPIIcPOcPOOcY-CREE POOcCARRIER H
EEdHIcPAcPAAcPWEcWEST-CREE PWEcPWIcWEST-CREE PWIcPWIIcWEST-CREE PWIIcPWOcWEST-CREE PWOcPWOOcWEST-CRE
E PWOOcPWAcWEST-CREE PWAcPWAAcWEST-CREE PWAAcY-CREE PWAAcPcWEST-CREE PcCARRIER HcTEcTAAIcTIcTIIcTOcT
OOcY-CREE TOOcCARRIER DEEdDIcTAcTAAcTWEcWEST-CREE TWEcTWIcWEST-CREE TWIcTWIIcWEST-CREE TWIIcTWOcWEST
-CREE TWOcTWOOcWEST-CREE TWOOcTWAcWEST-CREE TWAcTWAAcWEST-CREE TWAAcNASKAPI TWAAcTcTTEcTTIcTTOcTTAcK
EcKAAIcKIcKIIcKOcKOOcY-CREE KOOcKAcKAAcKWEcWEST-CREE KWEcKWIcWEST-CREE KWIcKWIIcWEST-CREE KWIIcKWOcW
EST-CREE KWOcKWOOcWEST-CREE KWOOcKWAcWEST-CREE KWAcKWAAcWEST-CREE KWAAcNASKAPI KWAAcKcKWcSOUTH-SLAVE
Y KEHeKIHeKOHeKAHcCEcCAAIcCIcCIIcCOcCOOcY-CREE COOcCAcCAAcCWEcWEST-CREE CWEcCWIcWEST-CREE CWIcCWIIcW
EST-CREE CWIIcCWOcWEST-CREE CWOcCWOOcWEST-CREE CWOOcCWAcWEST-CREE CWAcCWAAcWEST-CREE CWAAcNASKAPI CW
AAcCcSAYISI THcMEcMAAIcMIcMIIcMOcMOOcY-CREE MOOcMAcMAAcMWEcWEST-CREE MWEcMWIcWEST-CREE MWIcMWIIcWEST
-CREE MWIIcMWOcWEST-CREE MWOcMWOOcWEST-CREE MWOOcMWAcWEST-CREE MWAcMWAAcWEST-CREE MWAAcNASKAPI MWAAc
McWEST-CREE McMHcATHAPASCAN McSAYISI McNEcNAAIcNIcNIIcNOcNOOcY-CREE NOOcNAcNAAcNWEcWEST-CREE NWEcNWA
cWEST-CREE NWAcNWAAcWEST-CREE NWAAcNASKAPI NWAAcNcCARRIER NGcNHcLEcLAAIcLIcLIIcLOcLOOcY-CREE LOOcLAc
LAAcLWEcWEST-CREE LWEcLWIcWEST-CREE LWIcLWIIcWEST-CREE LWIIcLWOcWEST-CREE LWOcLWOOcWEST-CREE LWOOcLW
AcWEST-CREE LWAcLWAAcWEST-CREE LWAAcLcWEST-CREE LcMEDIAL LcSEcSAAIcSIcSIIcSOcSOOcY-CREE SOOcSAcSAAcS
WEcWEST-CREE SWEcSWIcWEST-CREE SWIcSWIIcWEST-CREE SWIIcSWOcWEST-CREE SWOcSWOOcWEST-CREE SWOOcSWAcWES
T-CREE SWAcSWAAcWEST-CREE SWAAcNASKAPI SWAAcScATHAPASCAN ScSWcBLACKFOOT ScMOOSE-CREE SKcNASKAPI SKWd
S-WdSPWAdSTWAdSKWAdSCWAcSHEcSHIcSHIIcSHOcSHOOcSHAcSHAAcSHWEcWEST-CREE SHWEcSHWIcWEST-CREE SHWIcSHWII
cWEST-CREE SHWIIcSHWOcWEST-CREE SHWOcSHWOOcWEST-CREE SHWOOcSHWAcWEST-CREE SHWAcSHWAAcWEST-CREE SHWAA
cSHcYEcYAAIcYIcYIIcYOcYOOcY-CREE YOOcYAcYAAcYWEcWEST-CREE YWEcYWIcWEST-CREE YWIcYWIIcWEST-CREE YWIIc
YWOcWEST-CREE YWOcYWOOcWEST-CREE YWOOcYWAcWEST-CREE YWAcYWAAcWEST-CREE YWAAcNASKAPI YWAAcYcBIBLE-CRE
E YcWEST-CREE YcSAYISI YIcREcR-CREE REcWEST-CREE LEcRAAIcRIcRIIcROcROOcWEST-CREE LOcRAcRAAcWEST-CRE
E LAcRWAAcWEST-CREE RWAAcRcWEST-CREE RcMEDIAL RcFEcFAAIcFIcFIIcFOcFOOcFAcFAAcFWAAcWEST-CREE FWAAcFcT
HEcN-CREE THEcTHIcN-CREE THIcTHIIcN-CREE THIIcTHOcTHOOcTHAcTHAAcTHWAAcWEST-CREE THWAAcTHcTTHEcTTHIcT
THOcTTHAcTTHcTYEcTYIcTYOcTYAcNUNAVIK HEdHIdHIIdHOdHOOdHAdHAAdHcNUNAVUT HcHKcQAAIcQIcQIIcQOcQOOcQAcQA
AcQcTLHEcTLHIcTLHOcTLHAcWEST-CREE REeRIeROeRAcNGAAIcNGIcNGIIcNGOcNGOOcNGAcNGAAcNGcNNGcSAYISI SHEdSHI
dSHOdSHAcWOODS-CREE THEeTHIeTHOeTHAeTHcLHIcLHIIcLHOcLHOOcLHAcLHAAcLHcTH-CREE THEeTHIeTHIIeTHOeTHOOeT
HAeTHAAeTHcAIVILIK BcBLACKFOOT EdIdOdAdWEdWIdWOdWAdNEdNIdNOdNAdKEdKIdKOdKAcSAYISI HEdHIdHOdHAcCARRIE
R GHUdGHOdGHEdGHEEdGHIdGHAdRUdROdREdREEdRIdRAdWUdWOdWEdWEEdWIdWAdHWUdHWOdHWEdHWEEdHWIdHWAdTHUdTHOdTH
EdTHEEdTHIdTHAdTTUdTTOdTTEdTTEEdTTIdTTAdPUdPOdPEdPEEdPIdPAdPdGUdGOdGEdGEEdGIdGAdKHUdKHOdKHEdKHEEdKHI
dKHAdKKUdKKOdKKEdKKEEdKKIdKKAdKKdNUdNOdNEdNEEdNIdNAdMUdMOdMEdMEEdMIdMAdYUdYOdYEdYEEdYIdYAdJUcSAYIS
I JUcCARRIER JOdJEdJEEdJIcSAYISI JIcCARRIER JAdJJUdJJOdJJEdJJEEdJJIdJJAdLUdLOdLEdLEEdLIdLAdDLUdDLOdD
LEdDLEEdDLIdDLAdLHUdLHOdLHEdLHEEdLHIdLHAdTLHUdTLHOdTLHEdTLHEEdTLHIdTLHAdTLUdTLOdTLEdTLEEdTLIdTLAdZUd
ZOdZEdZEEdZIdZAdZdINITIAL ZdDZUdDZOdDZEdDZEEdDZIdDZAdSUdSOdSEdSEEdSIdSAdSHUdSHOdSHEdSHEEdSHIdSHAdSHd
TSUdTSOdTSEdTSEEdTSIdTSAdCHUdCHOdCHEdCHEEdCHIdCHAdTTSUdTTSOdTTSEdTTSEEdTTSIdTTSAcCHI SIGNcFULL STOPc
QAIcNGAIcNNGIcNNGIIcNNGOcNNGOOcNNGAcNNGAAcWOODS-CREE THWEEeTHWIeTHWIIeTHWOeTHWOOeTHWAeTHWAAeFINAL TH
cBLACKFOOT WaOGHAM SPACE MARKbLETTER BEITHcLUIScFEARNcSAILcNIONcUATHcDAIRcTINNEcCOLLcCEIRTcMUINcGORT
cNGEADALcSTRAIFcRUIScAILMcONNcURcEADHADHcIODHADHcEABHADHcORcUILLEANNcIFINcEAMHANCHOLLcPEITHbFEATHE
R MARKbREVERSED FEATHER MARK=16A0aRUNIC LETTER FEHU FEOH FE FcVcURUZ UR UcYRcYcWcTHURISAZ THURS THOR
NcETHcANSUZ AcOS OcAC AcAESCcLONG-BRANCH-OSS OcSHORT-TWIG-OSS OcOcOEcONcRAIDO RAD REID RcKAUNAcCENcK
AUN KcGcENGcGEBO GYFU GcGARcWUNJO WYNN WcHAGLAZ HcHAEGL HcLONG-BRANCH-HAGALL HcSHORT-TWIG-HAGALL HcN
AUDIZ NYD NAUD NcSHORT-TWIG-NAUD NcDOTTED-NcISAZ IS ISS IcEcJERAN JcGERcLONG-BRANCH-AR AEcSHORT-TWIG
-AR AcIWAZ EOHcPERTHO PEORTH PcALGIZ EOLHXcSOWILO ScSIGEL LONG-BRANCH-SOL ScSHORT-TWIG-SOL ScCcZcTIW
AZ TIR TYR TcSHORT-TWIG-TYR TcDcBERKANAN BEORC BJARKAN BcSHORT-TWIG-BJARKAN BcDOTTED-PcOPEN-PcEHWA
Z EH EcMANNAZ MAN McLONG-BRANCH-MADR McSHORT-TWIG-MADR McLAUKAZ LAGU LOGR LcDOTTED-LcINGWAZcINGcDAGA
Z DAEG DcOTHALAN ETHEL OcEARcIORcCWEORTHcCALCcCEALCcSTANcLONG-BRANCH-YRcSHORT-TWIG-YRcICELANDIC-YRcQ
cXbSINGLE PUNCTUATIONbMULTIPLE PUNCTUATIONbCROSS PUNCTUATIONbARLAUG SYMBOLbTVIMADUR SYMBOLbBELGTHO
R SYMBOLbLETTER KcSHcOOcFRANKS CASKET OSeISeEHeACeAESC=1700aTAGALOG LETTER AcIcUcKAcGAcNGAcTAcDAcNAc
PAcBAcMAcYAcRAcLAcWAcSAcHAbVOWEL SIGN IdUbSIGN VIRAMAcPAMUDPOD=171FaTAGALOG LETTER ARCHAIC RAaHANUNO
O LETTER AcIcUcKAcGAcNGAcTAcDAcNAcPAcBAcMAcYAcRAcLAcWAcSAcHAbVOWEL SIGN IdUbSIGN PAMUDPODaPHILIPPIN
E SINGLE PUNCTUATIONbDOUBLE PUNCTUATION=1740aBUHID LETTER AcIcUcKAcGAcNGAcTAcDAcNAcPAcBAcMAcYAcRAcLA
cWAcSAcHAbVOWEL SIGN IdU=1760aTAGBANWA LETTER AcIcUcKAcGAcNGAcTAcDAcNAcPAcBAcMAcYA=176EaTAGBANWA LET
TER LAcWAcSA=1772aTAGBANWA VOWEL SIGN IdU=1780aKHMER LETTER KAcKHAcKOcKHOcNGOcCAcCHAcCOcCHOcNYOcDAcT
THAcDOcTTHOcNNOcTAcTHAcTOcTHOcNOcBAcPHAcPOcPHOcMOcYOcROcLOcVOcSHAcSSOcSAcHAcLAcQAbINDEPENDENT VOWE
L QAQdQAAdQIdQIIdQUdQUKdQUUdQUUVdRYdRYYdLYdLYYdQEdQAIdQOO TYPE ONEfTWOdQAUbVOWEL INHERENT AQdAAcSIG
N AAdIdIIdYdYYdUdUUdUAdOEdYAdIEdEdAEdAIdOOdAUbSIGN NIKAHITcREAHMUKcYUUKALEAPINTUcMUUSIKATOANcTRIISAP
cBANTOCcROBATcTOANDAKHIATcKAKABATcAHSDAcSAMYOK SANNYAcVIRIAMcCOENGcBATHAMASATcKHANcBARIYOOSANcCAMNU
C PII KUUHcLEK TOOcBEYYALcPHNAEK MUANcKOOMUUTbCURRENCY SYMBOL RIELbSIGN AVAKRAHASANYAcATTHACAN=17E0a
KHMER DIGIT ZEROcONEcTWOcTHREEcFOURcFIVEcSIXcSEVENcEIGHTcNINE=17F0aKHMER SYMBOL LEK ATTAK SONeMUOYeP
IIeBEIeBUONePRAMePRAM-MUOYfPIIfBEIfBUON=1800aMONGOLIAN BIRGAbELLIPSISbCOMMAbFULL STOPbCOLONbFOUR DOT
SbTODO SOFT HYPHENbSIBE SYLLABLE BOUNDARY MARKERbMANCHU COMMAcFULL STOPbNIRUGUbFREE VARIATION SELECT
OR ONEeTWOeTHREEbVOWEL SEPARATORbFREE VARIATION SELECTOR FOURbDIGIT ZEROcONEcTWOcTHREEcFOURcFIVEcSIX
cSEVENcEIGHTcNINE=1820aMONGOLIAN LETTER AcEcIcOcUcOEcUEcEEcNAcANGcBAcPAcQAcGAcMAcLAcSAcSHAcTAcDAcCHA
cJAcYAcRAcWAcFAcKAcKHAcTSAcZAcHAAcZRAcLHAcZHIcCHIcTODO LONG VOWEL SIGNdEdIdOdUdOEdUEdANGdBAdPAdQAdGA
dMAdTAdDAdCHAdJAdTSAdYAdWAdKAdGAAdHAAdJIAdNIAdDZAcSIBE EdIdIYdUEdUdANGdKAdGAdHAdPAdSHAdTAdDAdJAdFAdG
AAdHAAdTSAdZAdRAAdCHAdZHAcMANCHU IdKAdRAdFAdZHAcCHA WITH TWO DOTS=1880aMONGOLIAN LETTER ALI GALI ANU
SVARA ONEeVISARGA ONEeDAMARUeUBADAMAeINVERTED UBADAMAeBALUDAeTHREE BALUDAeAeIeKAeNGAeCAeTTAeTTHAeDDA
eNNAeTAeDAePAePHAeSSAeZHAeZAeAHcTODO ALI GALI TAfZHAcMANCHU ALI GALI GHAfNGAfCAfJHAfTTAfDDHAfTAfDHAf
SSAfCYAfZHAfZAcALI GALI HALF UfYAcMANCHU ALI GALI BHAcALI GALI DAGALGAcMANCHU ALI GALI LHA=18B0aCANA
DIAN SYLLABICS OYcAYcAAYcWAYcPOYcPAYcPWOYcTAYcKAYcKWAYcMAYcNOYcNAYcLAYcSOYcSAYcSHOYcSHAYcSHWOYcYOYcY
AYcRAYcNWIcOJIBWAY NWIcNWIIcOJIBWAY NWIIcNWOcOJIBWAY NWOcNWOOcOJIBWAY NWOOcRWEEcRWIcRWIIcRWOcRWOOcRW
AcOJIBWAY PdTdKdCdMdNdSdSHcEASTERN WcWESTERN WcFINAL SMALL RINGdRAISED DOTcR-CREE RWEcWEST-CREE LOOe
LAAcTHWEcTHWAcTTHWEcTTHOOcTTHAAcTLHWEcTLHOOcSAYISI SHWEdSHOOdHOOcCARRIER GWUdDENE GEEdGAAdGWAcSAYIS
I JUUcCARRIER JWAcBEAVER DENE LeRcCARRIER DENTAL S=1900aLIMBU VOWEL-CARRIER LETTERbLETTER KAcKHAcGAc
GHAcNGAcCAcCHAcJAcJHAcYANcTAcTHAcDAcDHAcNAcPAcPHAcBAcBHAcMAcYAcRAcLAcWAcSHAcSSAcSAcHAcGYANcTRA=1920a
LIMBU VOWEL SIGN AdIdUdEEdAIdOOdAUdEdObSUBJOINED LETTER YAdRAdWA=1930aLIMBU SMALL LETTER KAdNGAdANUS
VARAdTAdNAdPAdMAdRAdLAbSIGN MUKPHRENGcKEMPHRENGcSA-I=1940aLIMBU SIGN LOO=1944aLIMBU EXCLAMATION MARK
bQUESTION MARKbDIGIT ZEROcONEcTWOcTHREEcFOURcFIVEcSIXcSEVENcEIGHTcNINEaTAI LE LETTER KAdXAdNGAdTSAdS
AdYAdTAdTHAdLAdPAdPHAdMAdFAdVAdHAdQAdKHAdTSHAdNAdAdIdEEdEHdUdOOdOdUEdEdAUEdAI=1970aTAI LE LETTER TON
E-2e3e4e5e6=1980aNEW TAI LUE LETTER HIGH QAeLOW QAeHIGH KAfXAfNGAeLOW KAfXAfNGAeHIGH TSAfSAfYAeLOW T
SAfSAfYAeHIGH TAfTHAfNAeLOW TAfTHAfNAeHIGH PAfPHAfMAeLOW PAfPHAfMAeHIGH FAfVAfLAeLOW FAfVAfLAeHIGH H
AfDAfBAeLOW HAfDAfBAeHIGH KVAfXVAeLOW KVAfXVAeHIGH SUAeLOW SUA=19B0aNEW TAI LUE VOWEL SIGN VOWEL SHO
RTENERfAAfIIfUfUUfEfAEfOfOAfUEfAYfAAYfUYfOYfOAYfUEYfIYdLETTER FINAL VfNGfNfMfKfDfBdTONE MARK-1f2=19D
0aNEW TAI LUE DIGIT ZEROeONEeTWOeTHREEeFOUReFIVEeSIXeSEVENeEIGHTeNINEdTHAM DIGIT ONE=19DEaNEW TAI LU
E SIGN LAEeLAEVaKHMER SYMBOL PATHAMASATcMUOY KOETcPII KOETcBEI KOETcBUON KOETcPRAM KOETcPRAM-MUOY KO
ETdPII KOETdBEI KOETdBUON KOETcDAP KOETcDAP-MUOY KOETdPII KOETdBEI KOETdBUON KOETdPRAM KOETcTUTEYASA
TcMUOY ROCcPII ROCcBEI ROCcBUON ROCcPRAM ROCcPRAM-MUOY ROCdPII ROCdBEI ROCdBUON ROCcDAP ROCcDAP-MUO
Y ROCdPII ROCdBEI ROCdBUON ROCdPRAM ROCaBUGINESE LETTER KAcGAcNGAcNGKAcPAcBAcMAcMPAcTAcDAcNAcNRAcCAc
JAcNYAcNYCAcYAcRAcLAcVAcSAcAcHAbVOWEL SIGN IdUdEdOdAE=1A1EaBUGINESE PALLAWAbEND OF SECTIONaTAI THA
M LETTER HIGH KAeKHAeKXAdLOW KAeKXAeKHAdNGAdHIGH CAeCHAdLOW CAeSAeCHAdNYAdRATAdHIGH RATHAdDAdLOW RAT
HAdRANAdHIGH TAeTHAdLOW TAeTHAdNAdBAdHIGH PAePHAeFAdLOW PAeFAePHAdMAdLOW YAdHIGH YAdRAdRUEdLAdLUEdWA
dHIGH SHAeSSAeSAeHAdLLAdAdLOW HAdIdIIdUdUUdEEdOOdLAEdGREAT SAcCONSONANT SIGN MEDIAL RAfLAeLA TANG LA
IcSIGN MAI KANG LAIcCONSONANT SIGN FINAL NGAeLOW PAeHIGH RATHA OR LOW PAeMAeBAeSA=1A60aTAI THAM SIG
N SAKOTcVOWEL SIGN AeMAI SATeAAeTALL AAeIeIIeUEeUUEeUeUUeOeOA BELOWeOYeEeAEeOOeAIeTHAM AIeOA ABOVEcS
IGN MAI KANGdTONE-1e2dKHUEN TONE-3f4f5dRA HAAMdMAI SAMdKHUEN-LUE KARAN=1A7FaTAI THAM COMBINING CRYPT
OGRAMMIC DOTcHORA DIGIT ZEROeONEeTWOeTHREEeFOUReFIVEeSIXeSEVENeEIGHTeNINE=1A90aTAI THAM THAM DIGIT Z
EROeONEeTWOeTHREEeFOUReFIVEeSIXeSEVENeEIGHTeNINE=1AA0aTAI THAM SIGN WIANGdWIANGWAAKdSAWANdKEOWdHOYdD
OKMAIdREVERSED ROTATED RANAdMAI YAMOKdKAANdKAANKUUdSATKAANdSATKAANKUUdHANGdCAANG=1AB0aCOMBINING DOUB
LED CIRCUMFLEX ACCENTbDIAERESIS-RINGbINFINITYbDOWNWARDS ARROWbTRIPLE DOTbX-X BELOWbWIGGLY LINE BELOW
bOPEN MARK BELOWbDOUBLE OPEN MARK BELOWbLIGHT CENTRALIZATION STROKE BELOWbSTRONG CENTRALIZATION STRO
KE BELOWbPARENTHESES ABOVEbDOUBLE PARENTHESES ABOVEbPARENTHESES BELOWcOVERLAYbLATIN SMALL LETTER W B
ELOWeTURNED W BELOWbLEFT PARENTHESIS ABOVE LEFTbRIGHT PARENTHESIS ABOVE RIGHTbLEFT PARENTHESIS BELO
W LEFTbRIGHT PARENTHESIS BELOW RIGHTbSQUARE BRACKETS ABOVEbNUMBER SIGN ABOVEbINVERTED DOUBLE ARCH AB
OVEbPLUS SIGN ABOVEbDOUBLE PLUS SIGN ABOVEeBELOWbTRIPLE ACUTE ACCENTbLATIN SMALL LETTER INSULAR GfRf
T=1B00aBALINESE SIGN ULU RICEMdCANDRAcCECEKcSURANGcBISAHbLETTER AKARAcAKARA TEDUNGcIKARAcIKARA TEDUN
GcUKARAcUKARA TEDUNGcRA REPAdREPA TEDUNGcLA LENGAdLENGA TEDUNGcEKARAcAIKARAcOKARAcOKARA TEDUNGcKAcK
A MAHAPRANAcGAcGA GORAcNGAcCAcCA LACAcJAcJA JERAcNYAcTA LATIKdMURDA MAHAPRANAcDA MURDA ALPAPRANAeMAH
APRANAcNA RAMBATcTAcTA TAWAcDAcDA MADUcNAcPAcPA KAPALcBAcBA KEMBANGcMAcYAcRAcLAcWAcSA SAGAdSAPAcSAcH
AbSIGN REREKANbVOWEL SIGN TEDUNGdULUdULU SARIdSUKUdSUKU ILUTdRA REPAeREPA TEDUNGdLA LENGAeLENGA TEDU
NGdTALINGdTALING REPAeTEDUNGeREPA TEDUNGdPEPETdPEPET TEDUNGbADEG ADEGbLETTER KAF SASAKcKHOT SASAKcTZ
IR SASAKcEF SASAKcVE SASAKcZAL SASAKcASYURA SASAKcARCHAIC JNYA=1B50aBALINESE DIGIT ZEROcONEcTWOcTHRE
EcFOURcFIVEcSIXcSEVENcEIGHTcNINEbPANTIbPAMADAbWINDUbCARIK PAMUNGKAHcSIKIcPARERENbPAMENENGbMUSICAL SY
MBOL DONGdDENGdDUNGdDANGdDANG SURANGdDINGdDAENGdDEUNGdDAINGdDANG GEDEdCOMBINING TEGEHeENDEPeKEMPULeK
EMPLIeJEGOGANeKEMPUL WITH JEGOGANeKEMPLI WITH JEGOGANeBENDEeGONGdRIGHT-HAND OPEN DUGgDAGfCLOSED TUKg
TAKdLEFT-HAND OPEN PANGgPUNGfCLOSED PLAKgPLUKfOPEN PINGbPANTI LANTANGbPAMADA LANTANG=1B80aSUNDANES
E SIGN PANYECEKcPANGLAYARcPANGWISADbLETTER AcIcUcAEcOcEcEUcKAcQAcGAcNGAcCAcJAcZAcNYAcTAcDAcNAcPAcFAc
VAcBAcMAcYAcRAcLAcWAcSAcXAcHAbCONSONANT SIGN PAMINGKALdPANYAKRAdPANYIKUbVOWEL SIGN PANGHULUdPANYUKUd
PANAELAENGdPANOLONGdPAMEPETdPANEULEUNGbSIGN PAMAAEHcVIRAMAbCONSONANT SIGN PASANGAN MAeWAbLETTER KHAc
SYAbDIGIT ZEROcONEcTWOcTHREEcFOURcFIVEcSIXcSEVENcEIGHTcNINEbAVAGRAHAbLETTER REUcLEUcBHAcFINAL KdMaBA
TAK LETTER AcSIMALUNGUN AcHAcSIMALUNGUN HAcMANDAILING HAcBAcKARO BAcPAcSIMALUNGUN PAcNAcMANDAILING N
AcWAcSIMALUNGUN WAcPAKPAK WAcGAcSIMALUNGUN GAcJAcDAcRAcSIMALUNGUN RAcMAcSIMALUNGUN MAcSOUTHERN TAcNO
RTHERN TAcSAcSIMALUNGUN SAcMANDAILING SAcYAcSIMALUNGUN YAcNGAcLAcSIMALUNGUN LAcNYAcCAcNDAcMBAcIcUbSI
GN TOMPIbVOWEL SIGN EdPAKPAK EdEEdIdKARO IdOdKARO OdUdU FOR SIMALUNGUN SAbCONSONANT SIGN NGdHbPANGOL
ATbPANONGONAN=1BFCaBATAK SYMBOL BINDU NA METEKdPINARBORASdJUDULdPANGOLATaLEPCHA LETTER KAcKLAcKHAcGA
cGLAcNGAcCAcCHAcJAcNYAcTAcTHAcDAcNAcPAcPLAcPHAcFAcFLAcBAcBLAcMAcMLAcTSAcTSHAcDZAcYAcRAcLAcHAcHLAcVAc
SAcSHAcWAcAbSUBJOINED LETTER YAdRAbVOWEL SIGN AAdIdOdOOdUdUUdEbCONSONANT SIGN KdMdLdNdPdRdTdNYIN-DOd
KANGbSIGN RANcNUKTA=1C3BaLEPCHA PUNCTUATION TA-ROLcNYET THYOOM TA-ROLcCER-WAcTSHOOK CER-WAcTSHOOKbDI
GIT ZEROcONEcTWOcTHREEcFOURcFIVEcSIXcSEVENcEIGHTcNINE=1C4DaLEPCHA LETTER TTAcTTHAcDDAaOL CHIKI DIGI
T ZEROdONEdTWOdTHREEdFOURdFIVEdSIXdSEVENdEIGHTdNINEcLETTER LAdATdAGdANGdALdLAAdAAKdAAJdAAMdAAWdLIdIS
dIHdINYdIRdLUdUCdUDdUNNdUYdLEdEPdEDDdENdERRdLOdOTTdOBdOVdOHcMU TTUDDAGcGAAHLAA TTUDDAAGcMU-GAAHLAA T
TUDDAAGcRELAAcPHAARKAAcAHADcPUNCTUATION MUCAADdDOUBLE MUCAADaCYRILLIC SMALL LETTER ROUNDED VEdLONG-L
EGGED DEdNARROW OdWIDE ESdTALL TEdTHREE-LEGGED TEdTALL HARD SIGNeYATdUNBLENDED UK=1C90aGEORGIAN MTAV
RULI CAPITAL LETTER ANeBANeGANeDONeENeVINeZENeTANeINeKANeLASeMANeNAReONePAReZHAReRAEeSANeTAReUNePHAR
eKHAReGHANeQAReSHINeCHINeCANeJILeCILeCHAReXANeJHANeHAEeHEeHIEeWEeHAReHOEeFIeYNeELIFIeTURNED GANeAIN=
1CBDaGEORGIAN MTAVRULI CAPITAL LETTER AENeHARD SIGNeLABIAL SIGNaSUNDANESE PUNCTUATION BINDU SURYAdPA
NGLONGdPURNAMAdCAKRAdLEU SATANGAdKA SATANGAdDA SATANGAdBA SATANGA=1CD0aVEDIC TONE KARSHANAcSHARAcPRE
NKHAbSIGN NIHSHVASAcYAJURVEDIC MIDLINE SVARITAbTONE YAJURVEDIC AGGRAVATED INDEPENDENT SVARITAdINDEPE
NDENT SVARITAdKATHAKA INDEPENDENT SVARITAcCANDRA BELOWcYAJURVEDIC KATHAKA INDEPENDENT SVARITA SCHROE
DERcDOUBLE SVARITAcTRIPLE SVARITAcKATHAKA ANUDATTAcDOT BELOWcTWO DOTS BELOWcTHREE DOTS BELOWcRIGVEDI
C KASHMIRI INDEPENDENT SVARITAcATHARVAVEDIC INDEPENDENT SVARITAbSIGN VISARGA SVARITAdUDATTAcREVERSE
D VISARGA UDATTAcVISARGA ANUDATTAcREVERSED VISARGA ANUDATTAcVISARGA UDATTA WITH TAILdANUDATTA WITH T
AILcANUSVARA ANTARGOMUKHAdBAHIRGOMUKHAdVAMAGOMUKHAdVAMAGOMUKHA WITH TAILcTIRYAKcHEXIFORM LONG ANUSVA
RAcLONG ANUSVARAcRTHANG LONG ANUSVARAcANUSVARA UBHAYATO MUKHAcARDHAVISARGAcROTATED ARDHAVISARGAbTON
E CANDRA ABOVEbSIGN JIHVAMULIYAcUPADHMANIYAcATIKRAMAbTONE RING ABOVEcDOUBLE RING ABOVEbSIGN DOUBLE A
NUSVARA ANTARGOMUKHA=1D00aLATIN LETTER SMALL CAPITAL AeAEbSMALL LETTER TURNED AEbLETTER SMALL CAPITA
L BARRED BeCeDeETHeEbSMALL LETTER TURNED OPEN EeIbLETTER SMALL CAPITAL JeKeL WITH STROKEeMeREVERSE
D NeOeOPEN ObSMALL LETTER SIDEWAYS OeOPEN OeO WITH STROKEdTURNED OEbLETTER SMALL CAPITAL OUbSMALL LE
TTER TOP HALF OdBOTTOM HALF ObLETTER SMALL CAPITAL PeREVERSED ReTURNED ReTeUbSMALL LETTER SIDEWAYS U
eDIAERESIZED UeTURNED MbLETTER SMALL CAPITAL VeWeZeEZHcVOICED LARYNGEAL SPIRANTcAINaGREEK LETTER SMA
LL CAPITAL GAMMAeLAMDAePIeRHOePSIaCYRILLIC LETTER SMALL CAPITAL ELaMODIFIER LETTER CAPITAL AdAEdBdBA
RRED BdDdEdREVERSED EdGdHdIdJdKdLdMdNdREVERSED NdOdOUdPdRdTdUdWcSMALL AdTURNED AdALPHAdTURNED AEdBdD
dEdSCHWAdOPEN EdTURNED OPEN EdGdTURNED IdKdMdENGdOdOPEN OdTOP HALF OdBOTTOM HALF OdPdTdUdSIDEWAYS Ud
TURNED MdVdAINdBETAdGREEK GAMMAdDELTAdGREEK PHIdCHIaLATIN SUBSCRIPT SMALL LETTER IeReUeVaGREEK SUBSC
RIPT SMALL LETTER BETAeGAMMAeRHOePHIeCHIaLATIN SMALL LETTER UEdB WITH MIDDLE TILDEdD WITH MIDDLE TIL
DEdF WITH MIDDLE TILDEdM WITH MIDDLE TILDEdN WITH MIDDLE TILDEdP WITH MIDDLE TILDEdR WITH MIDDLE TIL
DEfFISHHOOK AND MIDDLE TILDEdS WITH MIDDLE TILDEdT WITH MIDDLE TILDEdZ WITH MIDDLE TILDEdTURNED GaMO
DIFIER LETTER CYRILLIC ENaLATIN SMALL LETTER INSULAR GdTH WITH STRIKETHROUGHcCAPITAL LETTER I WITH S
TROKEcLETTER IOTA WITH STROKEdP WITH STROKEcCAPITAL LETTER U WITH STROKEcLETTER UPSILON WITH STROKEd
B WITH PALATAL HOOKdD WITH PALATAL HOOKdF WITH PALATAL HOOKdG WITH PALATAL HOOKdK WITH PALATAL HOOKd
L WITH PALATAL HOOKdM WITH PALATAL HOOKdN WITH PALATAL HOOKdP WITH PALATAL HOOKdR WITH PALATAL HOOKd
S WITH PALATAL HOOKdESH WITH PALATAL HOOKdV WITH PALATAL HOOKdX WITH PALATAL HOOKdZ WITH PALATAL HOO
KdA WITH RETROFLEX HOOKdALPHA WITH RETROFLEX HOOKdD WITH HOOK AND TAILdE WITH RETROFLEX HOOKdOPE
N E WITH RETROFLEX HOOKdREVERSED OPEN E WITH RETROFLEX HOOKdSCHWA WITH RETROFLEX HOOKdI WITH RETROFL
EX HOOKdOPEN O WITH RETROFLEX HOOKdESH WITH RETROFLEX HOOKdU WITH RETROFLEX HOOKdEZH WITH RETROFLE
X HOOKaMODIFIER LETTER SMALL TURNED ALPHAdCdC WITH CURLdETHdREVERSED OPEN EdFdDOTLESS J WITH STROKEd
SCRIPT GdTURNED HdI WITH STROKEdIOTAdCAPITAL IeI WITH STROKEdJ WITH CROSSED-TAILdL WITH RETROFLEX HO
OKfPALATAL HOOKdCAPITAL LdM WITH HOOKdTURNED M WITH LONG LEGdN WITH LEFT HOOKfRETROFLEX HOOKdCAPITA
L NdBARRED OdPHIdS WITH HOOKdESHdT WITH PALATAL HOOKdU BARdUPSILONdCAPITAL UdV WITH HOOKdTURNED VdZd
Z WITH RETROFLEX HOOKfCURLdEZHdTHETAaCOMBINING DOTTED GRAVE ACCENTcACUTE ACCENTbSNAKE BELOWbSUSPENSI
ON MARKbMACRON-ACUTEbGRAVE-MACRONbMACRON-GRAVEbACUTE-MACRONbGRAVE-ACUTE-GRAVEbACUTE-GRAVE-ACUTEbLATI
N SMALL LETTER R BELOWbBREVE-MACRONbMACRON-BREVEbDOUBLE CIRCUMFLEX ABOVEbOGONEK ABOVEbZIGZAG BELOWbI
S BELOWbUR ABOVEbUS ABOVEbLATIN SMALL LETTER FLATTENED OPEN A ABOVEeAEeAOeAVeC CEDILLAeINSULAR DeETH
eGcLETTER SMALL CAPITAL GcSMALL LETTER KeLcLETTER SMALL CAPITAL LfMcSMALL LETTER NcLETTER SMALL CAPI
TAL NfRcSMALL LETTER R ROTUNDAeSeLONG SeZeALPHAeBeBETAeSCHWAeFeL WITH DOUBLE MIDDLE TILDEeO WITH LIG
HT CENTRALIZATION STROKEePeESHeU WITH LIGHT CENTRALIZATION STROKEeWeA WITH DIAERESISeO WITH DIAERESI
SeU WITH DIAERESISbUP TACK ABOVEbKAVYKA ABOVE RIGHTdLEFTbDOT ABOVE LEFTbWIDE INVERTED BRIDGE BELOWbD
OT BELOW LEFTbDELETION MARKbDOUBLE INVERTED BREVE BELOWbALMOST EQUAL TO BELOWbLEFT ARROWHEAD ABOVEbR
IGHT ARROWHEAD AND DOWN ARROWHEAD BELOWaLATIN CAPITAL LETTER A WITH RING BELOWbSMALL LETTER A WITH R
ING BELOWbCAPITAL LETTER B WITH DOT ABOVEbSMALL LETTER B WITH DOT ABOVEbCAPITAL LETTER B WITH DOT BE
LOWbSMALL LETTER B WITH DOT BELOWbCAPITAL LETTER B WITH LINE BELOWbSMALL LETTER B WITH LINE BELOWbCA
PITAL LETTER C WITH CEDILLA AND ACUTEbSMALL LETTER C WITH CEDILLA AND ACUTEbCAPITAL LETTER D WITH DO
T ABOVEbSMALL LETTER D WITH DOT ABOVEbCAPITAL LETTER D WITH DOT BELOWbSMALL LETTER D WITH DOT BELOWb
CAPITAL LETTER D WITH LINE BELOWbSMALL LETTER D WITH LINE BELOWbCAPITAL LETTER D WITH CEDILLAbSMAL
L LETTER D WITH CEDILLAbCAPITAL LETTER D WITH CIRCUMFLEX BELOWbSMALL LETTER D WITH CIRCUMFLEX BELOWb
CAPITAL LETTER E WITH MACRON AND GRAVEbSMALL LETTER E WITH MACRON AND GRAVEbCAPITAL LETTER E WITH MA
CRON AND ACUTEbSMALL LETTER E WITH MACRON AND ACUTEbCAPITAL LETTER E WITH CIRCUMFLEX BELOWbSMALL LET
TER E WITH CIRCUMFLEX BELOWbCAPITAL LETTER E WITH TILDE BELOWbSMALL LETTER E WITH TILDE BELOWbCAPITA
L LETTER E WITH CEDILLA AND BREVEbSMALL LETTER E WITH CEDILLA AND BREVEbCAPITAL LETTER F WITH DOT AB
OVEbSMALL LETTER F WITH DOT ABOVEbCAPITAL LETTER G WITH MACRONbSMALL LETTER G WITH MACRONbCAPITAL LE
TTER H WITH DOT ABOVEbSMALL LETTER H WITH DOT ABOVEbCAPITAL LETTER H WITH DOT BELOWbSMALL LETTER H W
ITH DOT BELOWbCAPITAL LETTER H WITH DIAERESISbSMALL LETTER H WITH DIAERESISbCAPITAL LETTER H WITH CE
DILLAbSMALL LETTER H WITH CEDILLAbCAPITAL LETTER H WITH BREVE BELOWbSMALL LETTER H WITH BREVE BELOWb
CAPITAL LETTER I WITH TILDE BELOWbSMALL LETTER I WITH TILDE BELOWbCAPITAL LETTER I WITH DIAERESIS AN
D ACUTEbSMALL LETTER I WITH DIAERESIS AND ACUTEbCAPITAL LETTER K WITH ACUTEbSMALL LETTER K WITH ACUT
EbCAPITAL LETTER K WITH DOT BELOWbSMALL LETTER K WITH DOT BELOWbCAPITAL LETTER K WITH LINE BELOWbSMA
LL LETTER K WITH LINE BELOWbCAPITAL LETTER L WITH DOT BELOWbSMALL LETTER L WITH DOT BELOWbCAPITAL LE
TTER L WITH DOT BELOW AND MACRONbSMALL LETTER L WITH DOT BELOW AND MACRONbCAPITAL LETTER L WITH LIN
E BELOWbSMALL LETTER L WITH LINE BELOWbCAPITAL LETTER L WITH CIRCUMFLEX BELOWbSMALL LETTER L WITH CI
RCUMFLEX BELOWbCAPITAL LETTER M WITH ACUTEbSMALL LETTER M WITH ACUTEbCAPITAL LETTER M WITH DOT ABOVE
bSMALL LETTER M WITH DOT ABOVEbCAPITAL LETTER M WITH DOT BELOWbSMALL LETTER M WITH DOT BELOWbCAPITA
L LETTER N WITH DOT ABOVEbSMALL LETTER N WITH DOT ABOVEbCAPITAL LETTER N WITH DOT BELOWbSMALL LETTE
R N WITH DOT BELOWbCAPITAL LETTER N WITH LINE BELOWbSMALL LETTER N WITH LINE BELOWbCAPITAL LETTE
R N WITH CIRCUMFLEX BELOWbSMALL LETTER N WITH CIRCUMFLEX BELOWbCAPITAL LETTER O WITH TILDE AND ACUTE
bSMALL LETTER O WITH TILDE AND ACUTEbCAPITAL LETTER O WITH TILDE AND DIAERESISbSMALL LETTER O WITH T
ILDE AND DIAERESISbCAPITAL LETTER O WITH MACRON AND GRAVEbSMALL LETTER O WITH MACRON AND GRAVEbCAPIT
AL LETTER O WITH MACRON AND ACUTEbSMALL LETTER O WITH MACRON AND ACUTEbCAPITAL LETTER P WITH ACUTEbS
MALL LETTER P WITH ACUTEbCAPITAL LETTER P WITH DOT ABOVEbSMALL LETTER P WITH DOT ABOVEbCAPITAL LETTE
R R WITH DOT ABOVEbSMALL LETTER R WITH DOT ABOVEbCAPITAL LETTER R WITH DOT BELOWbSMALL LETTER R WIT
H DOT BELOWbCAPITAL LETTER R WITH DOT BELOW AND MACRONbSMALL LETTER R WITH DOT BELOW AND MACRONbCAPI
TAL LETTER R WITH LINE BELOWbSMALL LETTER R WITH LINE BELOWbCAPITAL LETTER S WITH DOT ABOVEbSMALL LE
TTER S WITH DOT ABOVEbCAPITAL LETTER S WITH DOT BELOWbSMALL LETTER S WITH DOT BELOWbCAPITAL LETTE
R S WITH ACUTE AND DOT ABOVEbSMALL LETTER S WITH ACUTE AND DOT ABOVEbCAPITAL LETTER S WITH CARON AN
D DOT ABOVEbSMALL LETTER S WITH CARON AND DOT ABOVEbCAPITAL LETTER S WITH DOT BELOW AND DOT ABOVEbSM
ALL LETTER S WITH DOT BELOW AND DOT ABOVEbCAPITAL LETTER T WITH DOT ABOVEbSMALL LETTER T WITH DOT AB
OVEbCAPITAL LETTER T WITH DOT BELOWbSMALL LETTER T WITH DOT BELOWbCAPITAL LETTER T WITH LINE BELOWbS
MALL LETTER T WITH LINE BELOWbCAPITAL LETTER T WITH CIRCUMFLEX BELOWbSMALL LETTER T WITH CIRCUMFLE
X BELOWbCAPITAL LETTER U WITH DIAERESIS BELOWbSMALL LETTER U WITH DIAERESIS BELOWbCAPITAL LETTER U W
ITH TILDE BELOWbSMALL LETTER U WITH TILDE BELOWbCAPITAL LETTER U WITH CIRCUMFLEX BELOWbSMALL LETTE
R U WITH CIRCUMFLEX BELOWbCAPITAL LETTER U WITH TILDE AND ACUTEbSMALL LETTER U WITH TILDE AND ACUTEb
CAPITAL LETTER U WITH MACRON AND DIAERESISbSMALL LETTER U WITH MACRON AND DIAERESISbCAPITAL LETTE
R V WITH TILDEbSMALL LETTER V WITH TILDEbCAPITAL LETTER V WITH DOT BELOWbSMALL LETTER V WITH DOT BEL
OWbCAPITAL LETTER W WITH GRAVEbSMALL LETTER W WITH GRAVEbCAPITAL LETTER W WITH ACUTEbSMALL LETTE
R W WITH ACUTEbCAPITAL LETTER W WITH DIAERESISbSMALL LETTER W WITH DIAERESISbCAPITAL LETTER W WITH D
OT ABOVEbSMALL LETTER W WITH DOT ABOVEbCAPITAL LETTER W WITH DOT BELOWbSMALL LETTER W WITH DOT BELOW
bCAPITAL LETTER X WITH DOT ABOVEbSMALL LETTER X WITH DOT ABOVEbCAPITAL LETTER X WITH DIAERESISbSMAL
L LETTER X WITH DIAERESISbCAPITAL LETTER Y WITH DOT ABOVEbSMALL LETTER Y WITH DOT ABOVEbCAPITAL LETT
ER Z WITH CIRCUMFLEXbSMALL LETTER Z WITH CIRCUMFLEXbCAPITAL LETTER Z WITH DOT BELOWbSMALL LETTER Z W
ITH DOT BELOWbCAPITAL LETTER Z WITH LINE BELOWbSMALL LETTER Z WITH LINE BELOWdH WITH LINE BELOWdT WI
TH DIAERESISdW WITH RING ABOVEdY WITH RING ABOVEdA WITH RIGHT HALF RINGdLONG S WITH DOT ABOVEgDIAGON
AL STROKEgHIGH STROKEbCAPITAL LETTER SHARP SbSMALL LETTER DELTAbCAPITAL LETTER A WITH DOT BELOWbSMAL
L LETTER A WITH DOT BELOWbCAPITAL LETTER A WITH HOOK ABOVEbSMALL LETTER A WITH HOOK ABOVEbCAPITAL LE
TTER A WITH CIRCUMFLEX AND ACUTEbSMALL LETTER A WITH CIRCUMFLEX AND ACUTEbCAPITAL LETTER A WITH CIRC
UMFLEX AND GRAVEbSMALL LETTER A WITH CIRCUMFLEX AND GRAVEbCAPITAL LETTER A WITH CIRCUMFLEX AND HOO
K ABOVEbSMALL LETTER A WITH CIRCUMFLEX AND HOOK ABOVEbCAPITAL LETTER A WITH CIRCUMFLEX AND TILDEbSMA
LL LETTER A WITH CIRCUMFLEX AND TILDEbCAPITAL LETTER A WITH CIRCUMFLEX AND DOT BELOWbSMALL LETTE
R A WITH CIRCUMFLEX AND DOT BELOWbCAPITAL LETTER A WITH BREVE AND ACUTEbSMALL LETTER A WITH BREVE AN
D ACUTEbCAPITAL LETTER A WITH BREVE AND GRAVEbSMALL LETTER A WITH BREVE AND GRAVEbCAPITAL LETTER A W
ITH BREVE AND HOOK ABOVEbSMALL LETTER A WITH BREVE AND HOOK ABOVEbCAPITAL LETTER A WITH BREVE AND TI
LDEbSMALL LETTER A WITH BREVE AND TILDEbCAPITAL LETTER A WITH BREVE AND DOT BELOWbSMALL LETTER A WIT
H BREVE AND DOT BELOWbCAPITAL LETTER E WITH DOT BELOWbSMALL LETTER E WITH DOT BELOWbCAPITAL LETTE
R E WITH HOOK ABOVEbSMALL LETTER E WITH HOOK ABOVEbCAPITAL LETTER E WITH TILDEbSMALL LETTER E WITH T
ILDEbCAPITAL LETTER E WITH CIRCUMFLEX AND ACUTEbSMALL LETTER E WITH CIRCUMFLEX AND ACUTEbCAPITAL LET
TER E WITH CIRCUMFLEX AND GRAVEbSMALL LETTER E WITH CIRCUMFLEX AND GRAVEbCAPITAL LETTER E WITH CIRCU
MFLEX AND HOOK ABOVEbSMALL LETTER E WITH CIRCUMFLEX AND HOOK ABOVEbCAPITAL LETTER E WITH CIRCUMFLE
X AND TILDEbSMALL LETTER E WITH CIRCUMFLEX AND TILDEbCAPITAL LETTER E WITH CIRCUMFLEX AND DOT BELOWb
SMALL LETTER E WITH CIRCUMFLEX AND DOT BELOWbCAPITAL LETTER I WITH HOOK ABOVEbSMALL LETTER I WITH HO
OK ABOVEbCAPITAL LETTER I WITH DOT BELOWbSMALL LETTER I WITH DOT BELOWbCAPITAL LETTER O WITH DOT BEL
OWbSMALL LETTER O WITH DOT BELOWbCAPITAL LETTER O WITH HOOK ABOVEbSMALL LETTER O WITH HOOK ABOVEbCAP
ITAL LETTER O WITH CIRCUMFLEX AND ACUTEbSMALL LETTER O WITH CIRCUMFLEX AND ACUTEbCAPITAL LETTER O WI
TH CIRCUMFLEX AND GRAVEbSMALL LETTER O WITH CIRCUMFLEX AND GRAVEbCAPITAL LETTER O WITH CIRCUMFLEX AN
D HOOK ABOVEbSMALL LETTER O WITH CIRCUMFLEX AND HOOK ABOVEbCAPITAL LETTER O WITH CIRCUMFLEX AND TILD
EbSMALL LETTER O WITH CIRCUMFLEX AND TILDEbCAPITAL LETTER O WITH CIRCUMFLEX AND DOT BELOWbSMALL LETT
ER O WITH CIRCUMFLEX AND DOT BELOWbCAPITAL LETTER O WITH HORN AND ACUTEbSMALL LETTER O WITH HORN AN
D ACUTEbCAPITAL LETTER O WITH HORN AND GRAVEbSMALL LETTER O WITH HORN AND GRAVEbCAPITAL LETTER O WIT
H HORN AND HOOK ABOVEbSMALL LETTER O WITH HORN AND HOOK ABOVEbCAPITAL LETTER O WITH HORN AND TILDEbS
MALL LETTER O WITH HORN AND TILDEbCAPITAL LETTER O WITH HORN AND DOT BELOWbSMALL LETTER O WITH HOR
N AND DOT BELOWbCAPITAL LETTER U WITH DOT BELOWbSMALL LETTER U WITH DOT BELOWbCAPITAL LETTER U WIT
H HOOK ABOVEbSMALL LETTER U WITH HOOK ABOVEbCAPITAL LETTER U WITH HORN AND ACUTEbSMALL LETTER U WIT
H HORN AND ACUTEbCAPITAL LETTER U WITH HORN AND GRAVEbSMALL LETTER U WITH HORN AND GRAVEbCAPITAL LET
TER U WITH HORN AND HOOK ABOVEbSMALL LETTER U WITH HORN AND HOOK ABOVEbCAPITAL LETTER U WITH HORN AN
D TILDEbSMALL LETTER U WITH HORN AND TILDEbCAPITAL LETTER U WITH HORN AND DOT BELOWbSMALL LETTER U W
ITH HORN AND DOT BELOWbCAPITAL LETTER Y WITH GRAVEbSMALL LETTER Y WITH GRAVEbCAPITAL LETTER Y WITH D
OT BELOWbSMALL LETTER Y WITH DOT BELOWbCAPITAL LETTER Y WITH HOOK ABOVEbSMALL LETTER Y WITH HOOK ABO
VEbCAPITAL LETTER Y WITH TILDEbSMALL LETTER Y WITH TILDEbCAPITAL LETTER MIDDLE-WELSH LLbSMALL LETTE
R MIDDLE-WELSH LLbCAPITAL LETTER MIDDLE-WELSH VbSMALL LETTER MIDDLE-WELSH VbCAPITAL LETTER Y WITH LO
OPbSMALL LETTER Y WITH LOOPaGREEK SMALL LETTER ALPHA WITH PSILIfDASIAfPSILI AND VARIAfDASIA AND VARI
AfPSILI AND OXIAfDASIA AND OXIAfPSILI AND PERISPOMENIfDASIA AND PERISPOMENIbCAPITAL LETTER ALPHA WIT
H PSILIfDASIAfPSILI AND VARIAfDASIA AND VARIAfPSILI AND OXIAfDASIA AND OXIAfPSILI AND PERISPOMENIfDA
SIA AND PERISPOMENIbSMALL LETTER EPSILON WITH PSILIfDASIAfPSILI AND VARIAfDASIA AND VARIAfPSILI AN
D OXIAfDASIA AND OXIA=1F18aGREEK CAPITAL LETTER EPSILON WITH PSILIfDASIAfPSILI AND VARIAfDASIA AND V
ARIAfPSILI AND OXIAfDASIA AND OXIA=1F20aGREEK SMALL LETTER ETA WITH PSILIfDASIAfPSILI AND VARIAfDASI
A AND VARIAfPSILI AND OXIAfDASIA AND OXIAfPSILI AND PERISPOMENIfDASIA AND PERISPOMENIbCAPITAL LETTE
R ETA WITH PSILIfDASIAfPSILI AND VARIAfDASIA AND VARIAfPSILI AND OXIAfDASIA AND OXIAfPSILI AND PERIS
POMENIfDASIA AND PERISPOMENIbSMALL LETTER IOTA WITH PSILIfDASIAfPSILI AND VARIAfDASIA AND VARIAfPSIL
I AND OXIAfDASIA AND OXIAfPSILI AND PERISPOMENIfDASIA AND PERISPOMENIbCAPITAL LETTER IOTA WITH PSILI
fDASIAfPSILI AND VARIAfDASIA AND VARIAfPSILI AND OXIAfDASIA AND OXIAfPSILI AND PERISPOMENIfDASIA AN
D PERISPOMENIbSMALL LETTER OMICRON WITH PSILIfDASIAfPSILI AND VARIAfDASIA AND VARIAfPSILI AND OXIAfD
ASIA AND OXIA=1F48aGREEK CAPITAL LETTER OMICRON WITH PSILIfDASIAfPSILI AND VARIAfDASIA AND VARIAfPSI
LI AND OXIAfDASIA AND OXIA=1F50aGREEK SMALL LETTER UPSILON WITH PSILIfDASIAfPSILI AND VARIAfDASIA AN
D VARIAfPSILI AND OXIAfDASIA AND OXIAfPSILI AND PERISPOMENIfDASIA AND PERISPOMENI=1F59aGREEK CAPITA
L LETTER UPSILON WITH DASIA=1F5BaGREEK CAPITAL LETTER UPSILON WITH DASIA AND VARIA=1F5DaGREEK CAPITA
L LETTER UPSILON WITH DASIA AND OXIA=1F5FaGREEK CAPITAL LETTER UPSILON WITH DASIA AND PERISPOMENIbSM
ALL LETTER OMEGA WITH PSILIfDASIAfPSILI AND VARIAfDASIA AND VARIAfPSILI AND OXIAfDASIA AND OXIAfPSIL
I AND PERISPOMENIfDASIA AND PERISPOMENIbCAPITAL LETTER OMEGA WITH PSILIfDASIAfPSILI AND VARIAfDASI
A AND VARIAfPSILI AND OXIAfDASIA AND OXIAfPSILI AND PERISPOMENIfDASIA AND PERISPOMENIbSMALL LETTER A
LPHA WITH VARIAfOXIAdEPSILON WITH VARIAfOXIAdETA WITH VARIAfOXIAdIOTA WITH VARIAfOXIAdOMICRON WITH V
ARIAfOXIAdUPSILON WITH VARIAfOXIAdOMEGA WITH VARIAfOXIA=1F80aGREEK SMALL LETTER ALPHA WITH PSILI AN
D YPOGEGRAMMENIfDASIA AND YPOGEGRAMMENIfPSILI AND VARIA AND YPOGEGRAMMENIfDASIA AND VARIA AND YPOGEG
RAMMENIfPSILI AND OXIA AND YPOGEGRAMMENIfDASIA AND OXIA AND YPOGEGRAMMENIfPSILI AND PERISPOMENI AN
D YPOGEGRAMMENIfDASIA AND PERISPOMENI AND YPOGEGRAMMENIbCAPITAL LETTER ALPHA WITH PSILI AND PROSGEGR
AMMENIfDASIA AND PROSGEGRAMMENIfPSILI AND VARIA AND PROSGEGRAMMENIfDASIA AND VARIA AND PROSGEGRAMMEN
IfPSILI AND OXIA AND PROSGEGRAMMENIfDASIA AND OXIA AND PROSGEGRAMMENIfPSILI AND PERISPOMENI AND PROS
GEGRAMMENIfDASIA AND PERISPOMENI AND PROSGEGRAMMENIbSMALL LETTER ETA WITH PSILI AND YPOGEGRAMMENIfDA
SIA AND YPOGEGRAMMENIfPSILI AND VARIA AND YPOGEGRAMMENIfDASIA AND VARIA AND YPOGEGRAMMENIfPSILI AN
D OXIA AND YPOGEGRAMMENIfDASIA AND OXIA AND YPOGEGRAMMENIfPSILI AND PERISPOMENI AND YPOGEGRAMMENIfDA
SIA AND PERISPOMENI AND YPOGEGRAMMENIbCAPITAL LETTER ETA WITH PSILI AND PROSGEGRAMMENIfDASIA AND PRO
SGEGRAMMENIfPSILI AND VARIA AND PROSGEGRAMMENIfDASIA AND VARIA AND PROSGEGRAMMENIfPSILI AND OXIA AN
D PROSGEGRAMMENIfDASIA AND OXIA AND PROSGEGRAMMENIfPSILI AND PERISPOMENI AND PROSGEGRAMMENIfDASIA AN
D PERISPOMENI AND PROSGEGRAMMENIbSMALL LETTER OMEGA WITH PSILI AND YPOGEGRAMMENIfDASIA AND YPOGEGRAM
MENIfPSILI AND VARIA AND YPOGEGRAMMENIfDASIA AND VARIA AND YPOGEGRAMMENIfPSILI AND OXIA AND YPOGEGRA
MMENIfDASIA AND OXIA AND YPOGEGRAMMENIfPSILI AND PERISPOMENI AND YPOGEGRAMMENIfDASIA AND PERISPOMEN
I AND YPOGEGRAMMENIbCAPITAL LETTER OMEGA WITH PSILI AND PROSGEGRAMMENIfDASIA AND PROSGEGRAMMENIfPSIL
I AND VARIA AND PROSGEGRAMMENIfDASIA AND VARIA AND PROSGEGRAMMENIfPSILI AND OXIA AND PROSGEGRAMMENIf
DASIA AND OXIA AND PROSGEGRAMMENIfPSILI AND PERISPOMENI AND PROSGEGRAMMENIfDASIA AND PERISPOMENI AN
D PROSGEGRAMMENIbSMALL LETTER ALPHA WITH VRACHYfMACRONfVARIA AND YPOGEGRAMMENIfYPOGEGRAMMENIfOXIA AN
D YPOGEGRAMMENI=1FB6aGREEK SMALL LETTER ALPHA WITH PERISPOMENIfPERISPOMENI AND YPOGEGRAMMENIbCAPITA
L LETTER ALPHA WITH VRACHYfMACRONfVARIAfOXIAfPROSGEGRAMMENIbKORONISbPROSGEGRAMMENIbPSILIbPERISPOMENI
bDIALYTIKA AND PERISPOMENIbSMALL LETTER ETA WITH VARIA AND YPOGEGRAMMENIfYPOGEGRAMMENIfOXIA AND YPOG
EGRAMMENI=1FC6aGREEK SMALL LETTER ETA WITH PERISPOMENIfPERISPOMENI AND YPOGEGRAMMENIbCAPITAL LETTE
R EPSILON WITH VARIAfOXIAdETA WITH VARIAfOXIAfPROSGEGRAMMENIbPSILI AND VARIAdOXIAdPERISPOMENIbSMAL
L LETTER IOTA WITH VRACHYfMACRONfDIALYTIKA AND VARIAhOXIA=1FD6aGREEK SMALL LETTER IOTA WITH PERISPOM
ENIfDIALYTIKA AND PERISPOMENIbCAPITAL LETTER IOTA WITH VRACHYfMACRONfVARIAfOXIA=1FDDaGREEK DASIA AN
D VARIAdOXIAdPERISPOMENIbSMALL LETTER UPSILON WITH VRACHYfMACRONfDIALYTIKA AND VARIAhOXIAdRHO WITH P
SILIfDASIAdUPSILON WITH PERISPOMENIfDIALYTIKA AND PERISPOMENIbCAPITAL LETTER UPSILON WITH VRACHYfMAC
RONfVARIAfOXIAdRHO WITH DASIAbDIALYTIKA AND VARIAdOXIAbVARIA=1FF2aGREEK SMALL LETTER OMEGA WITH VARI
A AND YPOGEGRAMMENIfYPOGEGRAMMENIfOXIA AND YPOGEGRAMMENI=1FF6aGREEK SMALL LETTER OMEGA WITH PERISPOM
ENIfPERISPOMENI AND YPOGEGRAMMENIbCAPITAL LETTER OMICRON WITH VARIAfOXIAdOMEGA WITH VARIAfOXIAfPROSG
EGRAMMENIbOXIAbDASIA=2000aEN QUADaEM QUADaEN SPACEaEM SPACEaTHREE-PER-EM SPACEaFOUR-PER-EM SPACEaSIX
-PER-EM SPACEaFIGURE SPACEaPUNCTUATION SPACEaTHIN SPACEaHAIR SPACEaZERO WIDTH SPACEcNON-JOINERcJOINE
RaLEFT-TO-RIGHT MARKaRIGHT-TO-LEFT MARKaHYPHENaNON-BREAKING HYPHENaFIGURE DASHaEN DASHaEM DASHaHORIZ
ONTAL BARaDOUBLE VERTICAL LINEbLOW LINEaLEFT SINGLE QUOTATION MARKaRIGHT SINGLE QUOTATION MARKaSINGL
E LOW-9 QUOTATION MARKbHIGH-REVERSED-9 QUOTATION MARKaLEFT DOUBLE QUOTATION MARKaRIGHT DOUBLE QUOTAT
ION MARKaDOUBLE LOW-9 QUOTATION MARKbHIGH-REVERSED-9 QUOTATION MARKaDAGGERaDOUBLE DAGGERaBULLETaTRIA
NGULAR BULLETaONE DOT LEADERaTWO DOT LEADERaHORIZONTAL ELLIPSISaHYPHENATION POINTaLINE SEPARATORaPAR
AGRAPH SEPARATORaLEFT-TO-RIGHT EMBEDDINGaRIGHT-TO-LEFT EMBEDDINGaPOP DIRECTIONAL FORMATTINGaLEFT-TO-
RIGHT OVERRIDEaRIGHT-TO-LEFT OVERRIDEaNARROW NO-BREAK SPACEaPER MILLE SIGNbTEN THOUSAND SIGNaPRIMEaD
OUBLE PRIMEaTRIPLE PRIMEaREVERSED PRIMEbDOUBLE PRIMEbTRIPLE PRIMEaCARETaSINGLE LEFT-POINTING ANGLE Q
UOTATION MARKbRIGHT-POINTING ANGLE QUOTATION MARKaREFERENCE MARKaDOUBLE EXCLAMATION MARKaINTERROBANG
aOVERLINEaUNDERTIEaCHARACTER TIEaCARET INSERTION POINTaASTERISMaHYPHEN BULLETaFRACTION SLASHaLEFT SQ
UARE BRACKET WITH QUILLaRIGHT SQUARE BRACKET WITH QUILLaDOUBLE QUESTION MARKaQUESTION EXCLAMATION MA
RKaEXCLAMATION QUESTION MARKaTIRONIAN SIGN ETaREVERSED PILCROW SIGNaBLACK LEFTWARDS BULLETbRIGHTWARD
S BULLETaLOW ASTERISKaREVERSED SEMICOLONaCLOSE UPaTWO ASTERISKS ALIGNED VERTICALLYaCOMMERCIAL MINU
S SIGNaSWUNG DASHaINVERTED UNDERTIEaFLOWER PUNCTUATION MARKaTHREE DOT PUNCTUATIONaQUADRUPLE PRIMEaFO
UR DOT PUNCTUATIONaFIVE DOT PUNCTUATIONaTWO DOT PUNCTUATIONaFOUR DOT MARKaDOTTED CROSSaTRICOLONaVERT
ICAL FOUR DOTSaMEDIUM MATHEMATICAL SPACEaWORD JOINERaFUNCTION APPLICATIONaINVISIBLE TIMESbSEPARATORb
PLUS=2066aLEFT-TO-RIGHT ISOLATEaRIGHT-TO-LEFT ISOLATEaFIRST STRONG ISOLATEaPOP DIRECTIONAL ISOLATEaI
NHIBIT SYMMETRIC SWAPPINGaACTIVATE SYMMETRIC SWAPPINGaINHIBIT ARABIC FORM SHAPINGaACTIVATE ARABIC FO
RM SHAPINGaNATIONAL DIGIT SHAPESaNOMINAL DIGIT SHAPESaSUPERSCRIPT ZERObLATIN SMALL LETTER I=2074aSUP
ERSCRIPT FOURbFIVEbSIXbSEVENbEIGHTbNINEbPLUS SIGNbMINUSbEQUALS SIGNbLEFT PARENTHESISbRIGHT PARENTHES
ISbLATIN SMALL LETTER NaSUBSCRIPT ZERObONEbTWObTHREEbFOURbFIVEbSIXbSEVENbEIGHTbNINEbPLUS SIGNbMINUSb
EQUALS SIGNbLEFT PARENTHESISbRIGHT PARENTHESIS=2090aLATIN SUBSCRIPT SMALL LETTER AeEeOeXeSCHWAeHeKeL
eMeNePeSeT=20A0aEURO-CURRENCY SIGNaCOLON SIGNaCRUZEIRO SIGNaFRENCH FRANC SIGNaLIRA SIGNaMILL SIGNaNA
IRA SIGNaPESETA SIGNaRUPEE SIGNaWON SIGNaNEW SHEQEL SIGNaDONG SIGNaEURO SIGNaKIP SIGNaTUGRIK SIGNaDR
ACHMA SIGNaGERMAN PENNY SIGNaPESO SIGNaGUARANI SIGNaAUSTRAL SIGNaHRYVNIA SIGNaCEDI SIGNaLIVRE TOURNO
IS SIGNaSPESMILO SIGNaTENGE SIGNaINDIAN RUPEE SIGNaTURKISH LIRA SIGNaNORDIC MARK SIGNaMANAT SIGNaRUB
LE SIGNaLARI SIGNaBITCOIN SIGNaSOM SIGN=20D0aCOMBINING LEFT HARPOON ABOVEbRIGHT HARPOON ABOVEbLONG V
ERTICAL LINE OVERLAYbSHORT VERTICAL LINE OVERLAYbANTICLOCKWISE ARROW ABOVEbCLOCKWISE ARROW ABOVEbLEF
T ARROW ABOVEbRIGHT ARROW ABOVEbRING OVERLAYbCLOCKWISE RING OVERLAYbANTICLOCKWISE RING OVERLAYbTHRE
E DOTS ABOVEbFOUR DOTS ABOVEbENCLOSING CIRCLEcSQUAREcDIAMONDcCIRCLE BACKSLASHbLEFT RIGHT ARROW ABOVE
bENCLOSING SCREENcKEYCAPcUPWARD POINTING TRIANGLEbREVERSE SOLIDUS OVERLAYbDOUBLE VERTICAL STROKE OVE
RLAYbANNUITY SYMBOLbTRIPLE UNDERDOTbWIDE BRIDGE ABOVEbLEFTWARDS ARROW OVERLAYbLONG DOUBLE SOLIDUS OV
ERLAYbRIGHTWARDS HARPOON WITH BARB DOWNWARDSbLEFTWARDS HARPOON WITH BARB DOWNWARDSbLEFT ARROW BELOWb
RIGHT ARROW BELOWbASTERISK ABOVE=2100aACCOUNT OFaADDRESSED TO THE SUBJECTaDOUBLE-STRUCK CAPITAL CaDE
GREE CELSIUSaCENTRE LINE SYMBOLaCARE OFaCADA UNAaEULER CONSTANTaSCRUPLEaDEGREE FAHRENHEITaSCRIPT SMA
LL GbCAPITAL HaBLACK-LETTER CAPITAL HaDOUBLE-STRUCK CAPITAL HaPLANCK CONSTANTbCONSTANT OVER TWO PIaS
CRIPT CAPITAL IaBLACK-LETTER CAPITAL IaSCRIPT CAPITAL LbSMALL LaL B BAR SYMBOLaDOUBLE-STRUCK CAPITA
L NaNUMERO SIGNaSOUND RECORDING COPYRIGHTaSCRIPT CAPITAL PaDOUBLE-STRUCK CAPITAL PdQaSCRIPT CAPITA
L RaBLACK-LETTER CAPITAL RaDOUBLE-STRUCK CAPITAL RaPRESCRIPTION TAKEaRESPONSEaSERVICE MARKaTELEPHON
E SIGNaTRADE MARK SIGNaVERSICLEaDOUBLE-STRUCK CAPITAL ZaOUNCE SIGNaOHM SIGNaINVERTED OHM SIGNaBLACK-
LETTER CAPITAL ZaTURNED GREEK SMALL LETTER IOTAaKELVIN SIGNaANGSTROM SIGNaSCRIPT CAPITAL BaBLACK-LET
TER CAPITAL CaESTIMATED SYMBOLaSCRIPT SMALL EbCAPITAL EcFaTURNED CAPITAL FaSCRIPT CAPITAL MbSMALL Oa
ALEF SYMBOLaBET SYMBOLaGIMEL SYMBOLaDALET SYMBOLaINFORMATION SOURCEaROTATED CAPITAL QaFACSIMILE SIGN
aDOUBLE-STRUCK SMALL PIdGAMMAcCAPITAL GAMMAdPIcN-ARY SUMMATIONaTURNED SANS-SERIF CAPITAL GeLaREVERSE
D SANS-SERIF CAPITAL LaTURNED SANS-SERIF CAPITAL YaDOUBLE-STRUCK ITALIC CAPITAL DdSMALL DeEeIeJaPROP
ERTY LINEaTURNED AMPERSANDaPER SIGNaAKTIESELSKABaTURNED SMALL FaSYMBOL FOR SAMARITAN SOURCEaVULGAR F
RACTION ONE SEVENTHdNINTHdTENTHdTHIRDcTWO THIRDScONE FIFTHcTWO FIFTHScTHREE FIFTHScFOUR FIFTHScONE S
IXTHcFIVE SIXTHScONE EIGHTHcTHREE EIGHTHScFIVE EIGHTHScSEVEN EIGHTHSaFRACTION NUMERATOR ONEaROMAN NU
MERAL ONEcTWOcTHREEcFOURcFIVEcSIXcSEVENcEIGHTcNINEcTENcELEVENcTWELVEcFIFTYcONE HUNDREDcFIVE HUNDREDc
ONE THOUSANDaSMALL ROMAN NUMERAL ONEdTWOdTHREEdFOURdFIVEdSIXdSEVENdEIGHTdNINEdTENdELEVENdTWELVEdFIFT
YdONE HUNDREDdFIVE HUNDREDdONE THOUSANDaROMAN NUMERAL ONE THOUSAND C DcFIVE THOUSANDcTEN THOUSANDcRE
VERSED ONE HUNDREDaLATIN SMALL LETTER REVERSED CaROMAN NUMERAL SIX LATE FORMcFIFTY EARLY FORMdTHOUSA
NDcONE HUNDRED THOUSANDaVULGAR FRACTION ZERO THIRDSaTURNED DIGIT TWOcTHREE=2190aLEFTWARDS ARROWaUPWA
RDS ARROWaRIGHTWARDS ARROWaDOWNWARDS ARROWaLEFT RIGHT ARROWaUP DOWN ARROWaNORTH WEST ARROWbEAST ARRO
WaSOUTH EAST ARROWbWEST ARROWaLEFTWARDS ARROW WITH STROKEaRIGHTWARDS ARROW WITH STROKEaLEFTWARDS WAV
E ARROWaRIGHTWARDS WAVE ARROWaLEFTWARDS TWO HEADED ARROWaUPWARDS TWO HEADED ARROWaRIGHTWARDS TWO HEA
DED ARROWaDOWNWARDS TWO HEADED ARROWaLEFTWARDS ARROW WITH TAILaRIGHTWARDS ARROW WITH TAILaLEFTWARD
S ARROW FROM BARaUPWARDS ARROW FROM BARaRIGHTWARDS ARROW FROM BARaDOWNWARDS ARROW FROM BARaUP DOWN A
RROW WITH BASEaLEFTWARDS ARROW WITH HOOKaRIGHTWARDS ARROW WITH HOOKaLEFTWARDS ARROW WITH LOOPaRIGHTW
ARDS ARROW WITH LOOPaLEFT RIGHT WAVE ARROWcARROW WITH STROKEaDOWNWARDS ZIGZAG ARROWaUPWARDS ARROW WI
TH TIP LEFTWARDSeRIGHTWARDSaDOWNWARDS ARROW WITH TIP LEFTWARDSeRIGHTWARDSaRIGHTWARDS ARROW WITH CORN
ER DOWNWARDSaDOWNWARDS ARROW WITH CORNER LEFTWARDSaANTICLOCKWISE TOP SEMICIRCLE ARROWaCLOCKWISE TO
P SEMICIRCLE ARROWaNORTH WEST ARROW TO LONG BARaLEFTWARDS ARROW TO BAR OVER RIGHTWARDS ARROW TO BARa
ANTICLOCKWISE OPEN CIRCLE ARROWaCLOCKWISE OPEN CIRCLE ARROWaLEFTWARDS HARPOON WITH BARB UPWARDSeDOWN
WARDSaUPWARDS HARPOON WITH BARB RIGHTWARDSeLEFTWARDSaRIGHTWARDS HARPOON WITH BARB UPWARDSeDOWNWARDSa
DOWNWARDS HARPOON WITH BARB RIGHTWARDSeLEFTWARDSaRIGHTWARDS ARROW OVER LEFTWARDS ARROWaUPWARDS ARRO
W LEFTWARDS OF DOWNWARDS ARROWaLEFTWARDS ARROW OVER RIGHTWARDS ARROWbPAIRED ARROWSaUPWARDS PAIRED AR
ROWSaRIGHTWARDS PAIRED ARROWSaDOWNWARDS PAIRED ARROWSaLEFTWARDS HARPOON OVER RIGHTWARDS HARPOONaRIGH
TWARDS HARPOON OVER LEFTWARDS HARPOONaLEFTWARDS DOUBLE ARROW WITH STROKEaLEFT RIGHT DOUBLE ARROW WIT
H STROKEaRIGHTWARDS DOUBLE ARROW WITH STROKEaLEFTWARDS DOUBLE ARROWaUPWARDS DOUBLE ARROWaRIGHTWARD
S DOUBLE ARROWaDOWNWARDS DOUBLE ARROWaLEFT RIGHT DOUBLE ARROWaUP DOWN DOUBLE ARROWaNORTH WEST DOUBL
E ARROWbEAST DOUBLE ARROWaSOUTH EAST DOUBLE ARROWbWEST DOUBLE ARROWaLEFTWARDS TRIPLE ARROWaRIGHTWARD
S TRIPLE ARROWaLEFTWARDS SQUIGGLE ARROWaRIGHTWARDS SQUIGGLE ARROWaUPWARDS ARROW WITH DOUBLE STROKEaD
OWNWARDS ARROW WITH DOUBLE STROKEaLEFTWARDS DASHED ARROWaUPWARDS DASHED ARROWaRIGHTWARDS DASHED ARRO
WaDOWNWARDS DASHED ARROWaLEFTWARDS ARROW TO BARaRIGHTWARDS ARROW TO BARaLEFTWARDS WHITE ARROWaUPWARD
S WHITE ARROWaRIGHTWARDS WHITE ARROWaDOWNWARDS WHITE ARROWaUPWARDS WHITE ARROW FROM BARdON PEDESTALe
PEDESTAL WITH HORIZONTAL BARgVERTICAL BARcDOUBLE ARROWdARROW ON PEDESTALaRIGHTWARDS WHITE ARROW FRO
M WALLaNORTH WEST ARROW TO CORNERaSOUTH EAST ARROW TO CORNERaUP DOWN WHITE ARROWaRIGHT ARROW WITH SM
ALL CIRCLEaDOWNWARDS ARROW LEFTWARDS OF UPWARDS ARROWaTHREE RIGHTWARDS ARROWSaLEFTWARDS ARROW WITH V
ERTICAL STROKEaRIGHTWARDS ARROW WITH VERTICAL STROKEaLEFT RIGHT ARROW WITH VERTICAL STROKEaLEFTWARD
S ARROW WITH DOUBLE VERTICAL STROKEaRIGHTWARDS ARROW WITH DOUBLE VERTICAL STROKEaLEFT RIGHT ARROW WI
TH DOUBLE VERTICAL STROKEaLEFTWARDS OPEN-HEADED ARROWaRIGHTWARDS OPEN-HEADED ARROWaLEFT RIGHT OPEN-H
EADED ARROWaFOR ALLaCOMPLEMENTaPARTIAL DIFFERENTIALaTHERE EXISTSbDOES NOT EXISTaEMPTY SETaINCREMENTa
NABLAaELEMENT OFaNOT AN ELEMENT OFaSMALL ELEMENT OFaCONTAINS AS MEMBERaDOES NOT CONTAIN AS MEMBERaSM
ALL CONTAINS AS MEMBERaEND OF PROOFaN-ARY PRODUCTcCOPRODUCTcSUMMATIONaMINUS SIGNaMINUS-OR-PLUS SIGNa
DOT PLUSaDIVISION SLASHaSET MINUSaASTERISK OPERATORaRING OPERATORaBULLET OPERATORaSQUARE ROOTaCUBE R
OOTaFOURTH ROOTaPROPORTIONAL TOaINFINITYaRIGHT ANGLEaANGLEaMEASURED ANGLEaSPHERICAL ANGLEaDIVIDESaDO
ES NOT DIVIDEaPARALLEL TOaNOT PARALLEL TOaLOGICAL ANDbORaINTERSECTIONaUNIONaINTEGRALaDOUBLE INTEGRAL
aTRIPLE INTEGRALaCONTOUR INTEGRALaSURFACE INTEGRALaVOLUME INTEGRALaCLOCKWISE INTEGRALbCONTOUR INTEGR
ALaANTICLOCKWISE CONTOUR INTEGRALaTHEREFOREaBECAUSEaRATIOaPROPORTIONaDOT MINUSaEXCESSaGEOMETRIC PROP
ORTIONaHOMOTHETICaTILDE OPERATORaREVERSED TILDEaINVERTED LAZY SaSINE WAVEaWREATH PRODUCTaNOT TILDEaM
INUS TILDEaASYMPTOTICALLY EQUAL TOaNOT ASYMPTOTICALLY EQUAL TOaAPPROXIMATELY EQUAL TObBUT NOT ACTUAL
LY EQUAL TOaNEITHER APPROXIMATELY NOR ACTUALLY EQUAL TOaALMOST EQUAL TOaNOT ALMOST EQUAL TOaALMOST E
QUAL OR EQUAL TOaTRIPLE TILDEaALL EQUAL TOaEQUIVALENT TOaGEOMETRICALLY EQUIVALENT TOaDIFFERENCE BETW
EENaAPPROACHES THE LIMITaGEOMETRICALLY EQUAL TOaAPPROXIMATELY EQUAL TO OR THE IMAGE OFaIMAGE OF OR A
PPROXIMATELY EQUAL TOaCOLON EQUALSaEQUALS COLONaRING IN EQUAL TObEQUAL TOaCORRESPONDS TOaESTIMATESaE
QUIANGULAR TOaSTAR EQUALSaDELTA EQUAL TOaEQUAL TO BY DEFINITIONaMEASURED BYaQUESTIONED EQUAL TOaNO
T EQUAL TOaIDENTICAL TOaNOT IDENTICAL TOaSTRICTLY EQUIVALENT TOaLESS-THAN OR EQUAL TOaGREATER-THAN O
R EQUAL TOaLESS-THAN OVER EQUAL TOaGREATER-THAN OVER EQUAL TOaLESS-THAN BUT NOT EQUAL TOaGREATER-THA
N BUT NOT EQUAL TOaMUCH LESS-THANbGREATER-THANaBETWEENaNOT EQUIVALENT TObLESS-THANbGREATER-THANaNEIT
HER LESS-THAN NOR EQUAL TObGREATER-THAN NOR EQUAL TOaLESS-THAN OR EQUIVALENT TOaGREATER-THAN OR EQUI
VALENT TOaNEITHER LESS-THAN NOR EQUIVALENT TObGREATER-THAN NOR EQUIVALENT TOaLESS-THAN OR GREATER-TH
ANaGREATER-THAN OR LESS-THANaNEITHER LESS-THAN NOR GREATER-THANbGREATER-THAN NOR LESS-THANaPRECEDESa
SUCCEEDSaPRECEDES OR EQUAL TOaSUCCEEDS OR EQUAL TOaPRECEDES OR EQUIVALENT TOaSUCCEEDS OR EQUIVALEN
T TOaDOES NOT PRECEDEcSUCCEEDaSUBSET OFaSUPERSET OFaNOT A SUBSET OFcSUPERSET OFaSUBSET OF OR EQUAL T
OaSUPERSET OF OR EQUAL TOaNEITHER A SUBSET OF NOR EQUAL TOcSUPERSET OF NOR EQUAL TOaSUBSET OF WITH N
OT EQUAL TOaSUPERSET OF WITH NOT EQUAL TOaMULTISETaMULTISET MULTIPLICATIONbUNIONaSQUARE IMAGE OFbORI
GINAL OFbIMAGE OF OR EQUAL TObORIGINAL OF OR EQUAL TObCAPbCUPaCIRCLED PLUSbMINUSbTIMESbDIVISION SLAS
HbDOT OPERATORbRING OPERATORbASTERISK OPERATORbEQUALSbDASHaSQUARED PLUSbMINUSbTIMESbDOT OPERATORaRIG
HT TACKaLEFT TACKaDOWN TACKaUP TACKaASSERTIONaMODELSaTRUEaFORCESaTRIPLE VERTICAL BAR RIGHT TURNSTILE
aDOUBLE VERTICAL BAR DOUBLE RIGHT TURNSTILEaDOES NOT PROVEaNOT TRUEaDOES NOT FORCEaNEGATED DOUBLE VE
RTICAL BAR DOUBLE RIGHT TURNSTILEaPRECEDES UNDER RELATIONaSUCCEEDS UNDER RELATIONaNORMAL SUBGROUP OF
aCONTAINS AS NORMAL SUBGROUPaNORMAL SUBGROUP OF OR EQUAL TOaCONTAINS AS NORMAL SUBGROUP OR EQUAL TOa
ORIGINAL OFaIMAGE OFaMULTIMAPaHERMITIAN CONJUGATE MATRIXaINTERCALATEaXORaNANDaNORaRIGHT ANGLE WITH A
RCbTRIANGLEaN-ARY LOGICAL ANDdORcINTERSECTIONcUNIONaDIAMOND OPERATORaDOT OPERATORaSTAR OPERATORaDIVI
SION TIMESaBOWTIEaLEFT NORMAL FACTOR SEMIDIRECT PRODUCTaRIGHT NORMAL FACTOR SEMIDIRECT PRODUCTaLEF
T SEMIDIRECT PRODUCTaRIGHT SEMIDIRECT PRODUCTaREVERSED TILDE EQUALSaCURLY LOGICAL ORcANDaDOUBLE SUBS
ETbSUPERSETbINTERSECTIONbUNIONaPITCHFORKaEQUAL AND PARALLEL TOaLESS-THAN WITH DOTaGREATER-THAN WIT
H DOTaVERY MUCH LESS-THANcGREATER-THANaLESS-THAN EQUAL TO OR GREATER-THANaGREATER-THAN EQUAL TO OR L
ESS-THANaEQUAL TO OR LESS-THANdGREATER-THANdPRECEDESdSUCCEEDSaDOES NOT PRECEDE OR EQUALcSUCCEED OR E
QUALaNOT SQUARE IMAGE OF OR EQUAL TOcORIGINAL OF OR EQUAL TOaSQUARE IMAGE OF OR NOT EQUAL TObORIGINA
L OF OR NOT EQUAL TOaLESS-THAN BUT NOT EQUIVALENT TOaGREATER-THAN BUT NOT EQUIVALENT TOaPRECEDES BU
T NOT EQUIVALENT TOaSUCCEEDS BUT NOT EQUIVALENT TOaNOT NORMAL SUBGROUP OFaDOES NOT CONTAIN AS NORMA
L SUBGROUPaNOT NORMAL SUBGROUP OF OR EQUAL TOaDOES NOT CONTAIN AS NORMAL SUBGROUP OR EQUALaVERTICA
L ELLIPSISaMIDLINE HORIZONTAL ELLIPSISaUP RIGHT DIAGONAL ELLIPSISaDOWN RIGHT DIAGONAL ELLIPSISaELEME
NT OF WITH LONG HORIZONTAL STROKEdVERTICAL BAR AT END OF HORIZONTAL STROKEaSMALL ELEMENT OF WITH VER
TICAL BAR AT END OF HORIZONTAL STROKEaELEMENT OF WITH DOT ABOVEdOVERBARaSMALL ELEMENT OF WITH OVERBA
RaELEMENT OF WITH UNDERBARdTWO HORIZONTAL STROKESaCONTAINS WITH LONG HORIZONTAL STROKEcVERTICAL BA
R AT END OF HORIZONTAL STROKEaSMALL CONTAINS WITH VERTICAL BAR AT END OF HORIZONTAL STROKEaCONTAIN
S WITH OVERBARaSMALL CONTAINS WITH OVERBARaZ NOTATION BAG MEMBERSHIPaDIAMETER SIGNaELECTRIC ARROWaHO
USEaUP ARROWHEADaDOWN ARROWHEADaPROJECTIVEaPERSPECTIVEaWAVY LINEaLEFT CEILINGaRIGHT CEILINGaLEFT FLO
ORaRIGHT FLOORaBOTTOM RIGHT CROPbLEFT CROPaTOP RIGHT CROPbLEFT CROPaREVERSED NOT SIGNaSQUARE LOZENGE
aARCaSEGMENTaSECTORaTELEPHONE RECORDERaPOSITION INDICATORaVIEWDATA SQUAREaPLACE OF INTEREST SIGNaTUR
NED NOT SIGNaWATCHaHOURGLASSaTOP LEFT CORNERbRIGHT CORNERaBOTTOM LEFT CORNERbRIGHT CORNERaTOP HALF I
NTEGRALaBOTTOM HALF INTEGRALaFROWNaSMILEaUP ARROWHEAD BETWEEN TWO HORIZONTAL BARSaOPTION KEYaERASE T
O THE RIGHTaX IN A RECTANGLE BOXaKEYBOARDaLEFT-POINTING ANGLE BRACKETaRIGHT-POINTING ANGLE BRACKETaE
RASE TO THE LEFTaBENZENE RINGaCYLINDRICITYaALL AROUND-PROFILEaSYMMETRYaTOTAL RUNOUTaDIMENSION ORIGIN
aCONICAL TAPERaSLOPEaCOUNTERBOREaCOUNTERSINKaAPL FUNCTIONAL SYMBOL I-BEAMdSQUISH QUADdQUAD EQUALeDIV
IDEeDIAMONDeJOTeCIRCLEdCIRCLE STILEeJOTdSLASH BARdBACKSLASH BARdQUAD SLASHeBACKSLASHeLESS-THANeGREAT
ER-THANdLEFTWARDS VANEdRIGHTWARDS VANEdQUAD LEFTWARDS ARROWeRIGHTWARDS ARROWdCIRCLE BACKSLASHdDOWN T
ACK UNDERBARdDELTA STILEdQUAD DOWN CARETeDELTAdDOWN TACK JOTdUPWARDS VANEdQUAD UPWARDS ARROWdUP TAC
K OVERBARdDEL STILEdQUAD UP CARETeDELdUP TACK JOTdDOWNWARDS VANEdQUAD DOWNWARDS ARROWdQUOTE UNDERBAR
dDELTA UNDERBARdDIAMOND UNDERBARdJOT UNDERBARdCIRCLE UNDERBARdUP SHOE JOTdQUOTE QUADdCIRCLE STARdQUA
D COLONdUP TACK DIAERESISdDEL DIAERESISdSTAR DIAERESISdJOT DIAERESISdCIRCLE DIAERESISdDOWN SHOE STIL
EdLEFT SHOE STILEdTILDE DIAERESISdGREATER-THAN DIAERESISdCOMMA BARdDEL TILDEdZILDEdSTILE TILDEdSEMIC
OLON UNDERBARdQUAD NOT EQUALeQUESTIONdDOWN CARET TILDEdUP CARET TILDEdIOTAdRHOdOMEGAdALPHA UNDERBARd
EPSILON UNDERBARdIOTA UNDERBARdOMEGA UNDERBARdALPHAaNOT CHECK MARKaRIGHT ANGLE WITH DOWNWARDS ZIGZA
G ARROWaSHOULDERED OPEN BOXaBELL SYMBOLaVERTICAL LINE WITH MIDDLE DOTaINSERTION SYMBOLaCONTINUOUS UN
DERLINE SYMBOLaDISCONTINUOUS UNDERLINE SYMBOLaEMPHASIS SYMBOLaCOMPOSITION SYMBOLaWHITE SQUARE WITH C
ENTRE VERTICAL LINEaENTER SYMBOLaALTERNATIVE KEY SYMBOLaHELM SYMBOLaCIRCLED HORIZONTAL BAR WITH NOTC
HbTRIANGLE DOWNaBROKEN CIRCLE WITH NORTHWEST ARROWaUNDO SYMBOLaMONOSTABLE SYMBOLaHYSTERESIS SYMBOLaO
PEN-CIRCUIT-OUTPUT H-TYPE SYMBOLdL-TYPE SYMBOLaPASSIVE-PULL-DOWN-OUTPUT SYMBOLcUP-OUTPUT SYMBOLaDIRE
CT CURRENT SYMBOL FORM TWOaSOFTWARE-FUNCTION SYMBOLaAPL FUNCTIONAL SYMBOL QUADaDECIMAL SEPARATOR KE
Y SYMBOLaPREVIOUS PAGEaNEXT PAGEaPRINT SCREEN SYMBOLaCLEAR SCREEN SYMBOLaLEFT PARENTHESIS UPPER HOOK
cEXTENSIONcLOWER HOOKaRIGHT PARENTHESIS UPPER HOOKcEXTENSIONcLOWER HOOKaLEFT SQUARE BRACKET UPPER CO
RNERdEXTENSIONdLOWER CORNERaRIGHT SQUARE BRACKET UPPER CORNERdEXTENSIONdLOWER CORNERaLEFT CURLY BRAC
KET UPPER HOOKdMIDDLE PIECEdLOWER HOOKaCURLY BRACKET EXTENSIONaRIGHT CURLY BRACKET UPPER HOOKdMIDDL
E PIECEdLOWER HOOKaINTEGRAL EXTENSIONaHORIZONTAL LINE EXTENSIONaUPPER LEFT OR LOWER RIGHT CURLY BRAC
KET SECTIONbRIGHT OR LOWER LEFT CURLY BRACKET SECTIONaSUMMATION TOPbBOTTOMaTOP SQUARE BRACKETaBOTTO
M SQUARE BRACKETcBRACKET OVER TOP SQUARE BRACKETaRADICAL SYMBOL BOTTOMaLEFT VERTICAL BOX LINEaRIGH
T VERTICAL BOX LINEaHORIZONTAL SCAN LINE-1d3d7d9aDENTISTRY SYMBOL LIGHT VERTICAL AND TOP RIGHTfBOTTO
M RIGHTeWITH CIRCLEdDOWN AND HORIZONTAL WITH CIRCLEdUP AND HORIZONTAL WITH CIRCLEdVERTICAL WITH TRIA
NGLEdDOWN AND HORIZONTAL WITH TRIANGLEdUP AND HORIZONTAL WITH TRIANGLEdVERTICAL AND WAVEdDOWN AND HO
RIZONTAL WITH WAVEdUP AND HORIZONTAL WITH WAVEdDOWN AND HORIZONTALdUP AND HORIZONTALdVERTICAL AND TO
P LEFTfBOTTOM LEFTaSQUARE FOOTaRETURN SYMBOLaEJECT SYMBOLaVERTICAL LINE EXTENSIONaMETRICAL BREVEbLON
G OVER SHORTbSHORT OVER LONGbLONG OVER TWO SHORTSbTWO SHORTS OVER LONGdJOINEDbTRISEMEbTETRASEMEbPENT
ASEMEaEARTH GROUNDaFUSEaTOP PARENTHESISaBOTTOM PARENTHESISaTOP CURLY BRACKETaBOTTOM CURLY BRACKETaTO
P TORTOISE SHELL BRACKETaBOTTOM TORTOISE SHELL BRACKETaWHITE TRAPEZIUMaBENZENE RING WITH CIRCLEaSTRA
IGHTNESSaFLATNESSaAC CURRENTaELECTRICAL INTERSECTIONaDECIMAL EXPONENT SYMBOLaBLACK RIGHT-POINTING DO
UBLE TRIANGLEbLEFT-POINTING DOUBLE TRIANGLEbUP-POINTING DOUBLE TRIANGLEbDOWN-POINTING DOUBLE TRIANGL
EbRIGHT-POINTING DOUBLE TRIANGLE WITH VERTICAL BARbLEFT-POINTING DOUBLE TRIANGLE WITH VERTICAL BARbR
IGHT-POINTING TRIANGLE WITH DOUBLE VERTICAL BARaALARM CLOCKaSTOPWATCHaTIMER CLOCKaHOURGLASS WITH FLO
WING SANDaBLACK MEDIUM LEFT-POINTING TRIANGLEcRIGHT-POINTING TRIANGLEcUP-POINTING TRIANGLEcDOWN-POIN
TING TRIANGLEaDOUBLE VERTICAL BARaBLACK SQUARE FOR STOPbCIRCLE FOR RECORDaPOWER SYMBOLbON-OFF SYMBOL
bON SYMBOLbSLEEP SYMBOLaOBSERVER EYE SYMBOLaSYMBOL FOR NULLcSTART OF HEADINGeTEXTcEND OF TEXTeTRANSM
ISSIONcENQUIRYcACKNOWLEDGEcBELLcBACKSPACEcHORIZONTAL TABULATIONcLINE FEEDcVERTICAL TABULATIONcFORM F
EEDcCARRIAGE RETURNcSHIFT OUTdINcDATA LINK ESCAPEcDEVICE CONTROL ONEeTWOeTHREEeFOURcNEGATIVE ACKNOWL
EDGEcSYNCHRONOUS IDLEcEND OF TRANSMISSION BLOCKcCANCELcEND OF MEDIUMcSUBSTITUTEcESCAPEcFILE SEPARATO
RcGROUP SEPARATORcRECORD SEPARATORcUNIT SEPARATORcSPACEcDELETEaBLANK SYMBOLaOPEN BOXaSYMBOL FOR NEWL
INEcDELETE FORM TWOcSUBSTITUTE FORM TWO=2440aOCR HOOKbCHAIRbFORKbINVERTED FORKbBELT BUCKLEbBOW TIEbB
RANCH BANK IDENTIFICATIONbAMOUNT OF CHECKbDASHbCUSTOMER ACCOUNT NUMBERbDOUBLE BACKSLASH=2460aCIRCLE
D DIGIT ONEcTWOcTHREEcFOURcFIVEcSIXcSEVENcEIGHTcNINEbNUMBER TENcELEVENcTWELVEcTHIRTEENcFOURTEENcFIFT
EENcSIXTEENcSEVENTEENcEIGHTEENcNINETEENcTWENTYaPARENTHESIZED DIGIT ONEcTWOcTHREEcFOURcFIVEcSIXcSEVEN
cEIGHTcNINEbNUMBER TENcELEVENcTWELVEcTHIRTEENcFOURTEENcFIFTEENcSIXTEENcSEVENTEENcEIGHTEENcNINETEENcT
WENTYaDIGIT ONE FULL STOPbTWO FULL STOPbTHREE FULL STOPbFOUR FULL STOPbFIVE FULL STOPbSIX FULL STOPb
SEVEN FULL STOPbEIGHT FULL STOPbNINE FULL STOPaNUMBER TEN FULL STOPbELEVEN FULL STOPbTWELVE FULL STO
PbTHIRTEEN FULL STOPbFOURTEEN FULL STOPbFIFTEEN FULL STOPbSIXTEEN FULL STOPbSEVENTEEN FULL STOPbEIGH
TEEN FULL STOPbNINETEEN FULL STOPbTWENTY FULL STOPaPARENTHESIZED LATIN SMALL LETTER AeBeCeDeEeFeGeHe
IeJeKeLeMeNeOePeQeReSeTeUeVeWeXeYeZaCIRCLED LATIN CAPITAL LETTER AeBeCeDeEeFeGeHeIeJeKeLeMeNeOePeQeR
eSeTeUeVeWeXeYeZcSMALL LETTER AeBeCeDeEeFeGeHeIeJeKeLeMeNeOePeQeReSeTeUeVeWeXeYeZbDIGIT ZEROaNEGATIV
E CIRCLED NUMBER ELEVENdTWELVEdTHIRTEENdFOURTEENdFIFTEENdSIXTEENdSEVENTEENdEIGHTEENdNINETEENdTWENTYa
DOUBLE CIRCLED DIGIT ONEdTWOdTHREEdFOURdFIVEdSIXdSEVENdEIGHTdNINEcNUMBER TENaNEGATIVE CIRCLED DIGI
T ZEROaBOX DRAWINGS LIGHT HORIZONTALcHEAVY HORIZONTALcLIGHT VERTICALcHEAVY VERTICALcLIGHT TRIPLE DAS
H HORIZONTALcHEAVY TRIPLE DASH HORIZONTALcLIGHT TRIPLE DASH VERTICALcHEAVY TRIPLE DASH VERTICALcLIGH
T QUADRUPLE DASH HORIZONTALcHEAVY QUADRUPLE DASH HORIZONTALcLIGHT QUADRUPLE DASH VERTICALcHEAVY QUAD
RUPLE DASH VERTICALcLIGHT DOWN AND RIGHTcDOWN LIGHT AND RIGHT HEAVYdHEAVY AND RIGHT LIGHTcHEAVY DOW
N AND RIGHTcLIGHT DOWN AND LEFTcDOWN LIGHT AND LEFT HEAVYdHEAVY AND LEFT LIGHTcHEAVY DOWN AND LEFTcL
IGHT UP AND RIGHTcUP LIGHT AND RIGHT HEAVYdHEAVY AND RIGHT LIGHTcHEAVY UP AND RIGHTcLIGHT UP AND LEF
TcUP LIGHT AND LEFT HEAVYdHEAVY AND LEFT LIGHTcHEAVY UP AND LEFTcLIGHT VERTICAL AND RIGHTcVERTICAL L
IGHT AND RIGHT HEAVYcUP HEAVY AND RIGHT DOWN LIGHTcDOWN HEAVY AND RIGHT UP LIGHTcVERTICAL HEAVY AN
D RIGHT LIGHTcDOWN LIGHT AND RIGHT UP HEAVYcUP LIGHT AND RIGHT DOWN HEAVYcHEAVY VERTICAL AND RIGHTcL
IGHT VERTICAL AND LEFTcVERTICAL LIGHT AND LEFT HEAVYcUP HEAVY AND LEFT DOWN LIGHTcDOWN HEAVY AND LEF
T UP LIGHTcVERTICAL HEAVY AND LEFT LIGHTcDOWN LIGHT AND LEFT UP HEAVYcUP LIGHT AND LEFT DOWN HEAVYcH
EAVY VERTICAL AND LEFTcLIGHT DOWN AND HORIZONTALcLEFT HEAVY AND RIGHT DOWN LIGHTcRIGHT HEAVY AND LEF
T DOWN LIGHTcDOWN LIGHT AND HORIZONTAL HEAVYdHEAVY AND HORIZONTAL LIGHTcRIGHT LIGHT AND LEFT DOWN HE
AVYcLEFT LIGHT AND RIGHT DOWN HEAVYcHEAVY DOWN AND HORIZONTALcLIGHT UP AND HORIZONTALcLEFT HEAVY AN
D RIGHT UP LIGHTcRIGHT HEAVY AND LEFT UP LIGHTcUP LIGHT AND HORIZONTAL HEAVYdHEAVY AND HORIZONTAL LI
GHTcRIGHT LIGHT AND LEFT UP HEAVYcLEFT LIGHT AND RIGHT UP HEAVYcHEAVY UP AND HORIZONTALcLIGHT VERTIC
AL AND HORIZONTALcLEFT HEAVY AND RIGHT VERTICAL LIGHTcRIGHT HEAVY AND LEFT VERTICAL LIGHTcVERTICAL L
IGHT AND HORIZONTAL HEAVYcUP HEAVY AND DOWN HORIZONTAL LIGHTcDOWN HEAVY AND UP HORIZONTAL LIGHTcVERT
ICAL HEAVY AND HORIZONTAL LIGHTcLEFT UP HEAVY AND RIGHT DOWN LIGHTcRIGHT UP HEAVY AND LEFT DOWN LIGH
TcLEFT DOWN HEAVY AND RIGHT UP LIGHTcRIGHT DOWN HEAVY AND LEFT UP LIGHTcDOWN LIGHT AND UP HORIZONTA
L HEAVYcUP LIGHT AND DOWN HORIZONTAL HEAVYcRIGHT LIGHT AND LEFT VERTICAL HEAVYcLEFT LIGHT AND RIGH
T VERTICAL HEAVYcHEAVY VERTICAL AND HORIZONTALcLIGHT DOUBLE DASH HORIZONTALcHEAVY DOUBLE DASH HORIZO
NTALcLIGHT DOUBLE DASH VERTICALcHEAVY DOUBLE DASH VERTICALcDOUBLE HORIZONTALdVERTICALcDOWN SINGLE AN
D RIGHT DOUBLEdDOUBLE AND RIGHT SINGLEcDOUBLE DOWN AND RIGHTcDOWN SINGLE AND LEFT DOUBLEdDOUBLE AN
D LEFT SINGLEcDOUBLE DOWN AND LEFTcUP SINGLE AND RIGHT DOUBLEdDOUBLE AND RIGHT SINGLEcDOUBLE UP AN
D RIGHTcUP SINGLE AND LEFT DOUBLEdDOUBLE AND LEFT SINGLEcDOUBLE UP AND LEFTcVERTICAL SINGLE AND RIGH
T DOUBLEdDOUBLE AND RIGHT SINGLEcDOUBLE VERTICAL AND RIGHTcVERTICAL SINGLE AND LEFT DOUBLEdDOUBLE AN
D LEFT SINGLEcDOUBLE VERTICAL AND LEFTcDOWN SINGLE AND HORIZONTAL DOUBLEdDOUBLE AND HORIZONTAL SINGL
EcDOUBLE DOWN AND HORIZONTALcUP SINGLE AND HORIZONTAL DOUBLEdDOUBLE AND HORIZONTAL SINGLEcDOUBLE U
P AND HORIZONTALcVERTICAL SINGLE AND HORIZONTAL DOUBLEdDOUBLE AND HORIZONTAL SINGLEcDOUBLE VERTICA
L AND HORIZONTALcLIGHT ARC DOWN AND RIGHTgLEFTeUP AND LEFTgRIGHTdDIAGONAL UPPER RIGHT TO LOWER LEFTf
LEFT TO LOWER RIGHTeCROSSdLEFTdUPdRIGHTdDOWNcHEAVY LEFTdUPdRIGHTdDOWNcLIGHT LEFT AND HEAVY RIGHTdU
P AND HEAVY DOWNcHEAVY LEFT AND LIGHT RIGHTdUP AND LIGHT DOWNaUPPER HALF BLOCKaLOWER ONE EIGHTH BLOC
KcQUARTER BLOCKbTHREE EIGHTHS BLOCKbHALF BLOCKbFIVE EIGHTHS BLOCKbTHREE QUARTERS BLOCKbSEVEN EIGHTH
S BLOCKaFULL BLOCKaLEFT SEVEN EIGHTHS BLOCKbTHREE QUARTERS BLOCKbFIVE EIGHTHS BLOCKbHALF BLOCKbTHRE
E EIGHTHS BLOCKbONE QUARTER BLOCKcEIGHTH BLOCKaRIGHT HALF BLOCKaLIGHT SHADEaMEDIUM SHADEaDARK SHADEa
UPPER ONE EIGHTH BLOCKaRIGHT ONE EIGHTH BLOCKaQUADRANT LOWER LEFTcRIGHTbUPPER LEFTcLEFT AND LOWER LE
FT AND LOWER RIGHTfRIGHTeUPPER RIGHT AND LOWER LEFTiRIGHTcRIGHTcRIGHT AND LOWER LEFTfLEFT AND LOWE
R RIGHTaBLACK SQUAREaWHITE SQUAREbSQUARE WITH ROUNDED CORNERScCONTAINING BLACK SMALL SQUAREaSQUARE W
ITH HORIZONTAL FILLcVERTICAL FILLcORTHOGONAL CROSSHATCH FILLcUPPER LEFT TO LOWER RIGHT FILLdRIGHT T
O LOWER LEFT FILLcDIAGONAL CROSSHATCH FILLaBLACK SMALL SQUAREaWHITE SMALL SQUAREaBLACK RECTANGLEaWHI
TE RECTANGLEaBLACK VERTICAL RECTANGLEaWHITE VERTICAL RECTANGLEaBLACK PARALLELOGRAMaWHITE PARALLELOGR
AMaBLACK UP-POINTING TRIANGLEaWHITE UP-POINTING TRIANGLEaBLACK UP-POINTING SMALL TRIANGLEaWHITE UP-P
OINTING SMALL TRIANGLEaBLACK RIGHT-POINTING TRIANGLEaWHITE RIGHT-POINTING TRIANGLEaBLACK RIGHT-POINT
ING SMALL TRIANGLEaWHITE RIGHT-POINTING SMALL TRIANGLEaBLACK RIGHT-POINTING POINTERaWHITE RIGHT-POIN
TING POINTERaBLACK DOWN-POINTING TRIANGLEaWHITE DOWN-POINTING TRIANGLEaBLACK DOWN-POINTING SMALL TRI
ANGLEaWHITE DOWN-POINTING SMALL TRIANGLEaBLACK LEFT-POINTING TRIANGLEaWHITE LEFT-POINTING TRIANGLEaB
LACK LEFT-POINTING SMALL TRIANGLEaWHITE LEFT-POINTING SMALL TRIANGLEaBLACK LEFT-POINTING POINTERaWHI
TE LEFT-POINTING POINTERaBLACK DIAMONDaWHITE DIAMONDbDIAMOND CONTAINING BLACK SMALL DIAMONDaFISHEYEa
LOZENGEaWHITE CIRCLEaDOTTED CIRCLEaCIRCLE WITH VERTICAL FILLaBULLSEYEaBLACK CIRCLEaCIRCLE WITH LEF
T HALF BLACKcRIGHT HALF BLACKcLOWER HALF BLACKcUPPER HALF BLACKdRIGHT QUADRANT BLACKcALL BUT UPPER L
EFT QUADRANT BLACKaLEFT HALF BLACK CIRCLEaRIGHT HALF BLACK CIRCLEaINVERSE BULLETbWHITE CIRCLEaUPPE
R HALF INVERSE WHITE CIRCLEaLOWER HALF INVERSE WHITE CIRCLEaUPPER LEFT QUADRANT CIRCULAR ARCbRIGHT Q
UADRANT CIRCULAR ARCaLOWER RIGHT QUADRANT CIRCULAR ARCbLEFT QUADRANT CIRCULAR ARCaUPPER HALF CIRCLEa
LOWER HALF CIRCLEaBLACK LOWER RIGHT TRIANGLEcLEFT TRIANGLEbUPPER LEFT TRIANGLEcRIGHT TRIANGLEaWHIT
E BULLETaSQUARE WITH LEFT HALF BLACKcRIGHT HALF BLACKcUPPER LEFT DIAGONAL HALF BLACKcLOWER RIGHT DIA
GONAL HALF BLACKaWHITE SQUARE WITH VERTICAL BISECTING LINEbUP-POINTING TRIANGLE WITH DOTaUP-POINTIN
G TRIANGLE WITH LEFT HALF BLACKeRIGHT HALF BLACKaLARGE CIRCLEaWHITE SQUARE WITH UPPER LEFT QUADRANTd
LOWER LEFT QUADRANTeRIGHT QUADRANTdUPPER RIGHT QUADRANTbCIRCLE WITH UPPER LEFT QUADRANTdLOWER LEFT Q
UADRANTeRIGHT QUADRANTdUPPER RIGHT QUADRANTaUPPER LEFT TRIANGLEbRIGHT TRIANGLEaLOWER LEFT TRIANGLEaW
HITE MEDIUM SQUAREaBLACK MEDIUM SQUAREaWHITE MEDIUM SMALL SQUAREaBLACK MEDIUM SMALL SQUAREaLOWER RIG
HT TRIANGLEaBLACK SUN WITH RAYSaCLOUDaUMBRELLAaSNOWMANaCOMETaBLACK STARaWHITE STARaLIGHTNINGaTHUNDER
STORMaSUNaASCENDING NODEaDESCENDING NODEaCONJUNCTIONaOPPOSITIONaBLACK TELEPHONEaWHITE TELEPHONEaBALL
OT BOXbBOX WITH CHECKdXaSALTIREaUMBRELLA WITH RAIN DROPSaHOT BEVERAGEaWHITE SHOGI PIECEaBLACK SHOG
I PIECEaSHAMROCKaREVERSED ROTATED FLORAL HEART BULLETaBLACK LEFT POINTING INDEXbRIGHT POINTING INDEX
aWHITE LEFT POINTING INDEXbUP POINTING INDEXbRIGHT POINTING INDEXbDOWN POINTING INDEXaSKULL AND CROS
SBONESaCAUTION SIGNaRADIOACTIVE SIGNaBIOHAZARD SIGNaCADUCEUSaANKHaORTHODOX CROSSaCHI RHOaCROSS OF LO
RRAINEcJERUSALEMaSTAR AND CRESCENTaFARSI SYMBOLaADI SHAKTIaHAMMER AND SICKLEaPEACE SYMBOLaYIN YANGaT
RIGRAM FOR HEAVENcLAKEcFIREcTHUNDERcWINDcWATERcMOUNTAINcEARTHaWHEEL OF DHARMAaWHITE FROWNING FACEbSM
ILING FACEaBLACK SMILING FACEaWHITE SUN WITH RAYSaFIRST QUARTER MOONaLAST QUARTER MOONaMERCURYaFEMAL
E SIGNaEARTHaMALE SIGNaJUPITERaSATURNaURANUSaNEPTUNEaPLUTOaARIESaTAURUSaGEMINIaCANCERaLEOaVIRGOaLIBR
AaSCORPIUSaSAGITTARIUSaCAPRICORNaAQUARIUSaPISCESaWHITE CHESS KINGcQUEENcROOKcBISHOPcKNIGHTcPAWNaBLAC
K CHESS KINGcQUEENcROOKcBISHOPcKNIGHTcPAWNbSPADE SUITaWHITE HEART SUITbDIAMOND SUITaBLACK CLUB SUITa
WHITE SPADE SUITaBLACK HEART SUITbDIAMOND SUITaWHITE CLUB SUITaHOT SPRINGSaQUARTER NOTEaEIGHTH NOTEa
BEAMED EIGHTH NOTESbSIXTEENTH NOTESaMUSIC FLAT SIGNbNATURAL SIGNbSHARP SIGNaWEST SYRIAC CROSSaEAST S
YRIAC CROSSaUNIVERSAL RECYCLING SYMBOLaRECYCLING SYMBOL FOR TYPE-1 PLASTICSe2 PLASTICSe3 PLASTICSe
4 PLASTICSe5 PLASTICSe6 PLASTICSe7 PLASTICSdGENERIC MATERIALSaBLACK UNIVERSAL RECYCLING SYMBOLaRECYC
LED PAPER SYMBOLaPARTIALLY-RECYCLED PAPER SYMBOLaPERMANENT PAPER SIGNaWHEELCHAIR SYMBOLaDIE FACE-1c2
c3c4c5c6aWHITE CIRCLE WITH DOT RIGHTdTWO DOTSaBLACK CIRCLE WITH WHITE DOT RIGHTdTWO WHITE DOTSaMONOG
RAM FOR YANGcYINaDIGRAM FOR GREATER YANGcLESSER YINdYANGcGREATER YINaWHITE FLAGaBLACK FLAGaHAMMER AN
D PICKaANCHORaCROSSED SWORDSaSTAFF OF AESCULAPIUSaSCALESaALEMBICaFLOWERaGEARaSTAFF OF HERMESaATOM SY
MBOLaFLEUR-DE-LISaOUTLINED WHITE STARaTHREE LINES CONVERGING RIGHTdLEFTaWARNING SIGNaHIGH VOLTAGE SI
GNaDOUBLED FEMALE SIGNbMALE SIGNaINTERLOCKED FEMALE AND MALE SIGNaMALE AND FEMALE SIGNbWITH STROKE S
IGNdAND MALE AND FEMALE SIGNaVERTICAL MALE WITH STROKE SIGNaHORIZONTAL MALE WITH STROKE SIGNaMEDIU
M WHITE CIRCLEbBLACK CIRCLEbSMALL WHITE CIRCLEaMARRIAGE SYMBOLaDIVORCE SYMBOLaUNMARRIED PARTNERSHI
P SYMBOLaCOFFINaFUNERAL URNaNEUTERaCERESaPALLASaJUNOaVESTAaCHIRONaBLACK MOON LILITHaSEXTILEaSEMISEXT
ILEaQUINCUNXaSESQUIQUADRATEaSOCCER BALLaBASEBALLaSQUARED KEYaWHITE DRAUGHTS MANcKINGaBLACK DRAUGHT
S MANcKINGaSNOWMAN WITHOUT SNOWaSUN BEHIND CLOUDaRAINaBLACK SNOWMANaTHUNDER CLOUD AND RAINaTURNED WH
ITE SHOGI PIECEbBLACK SHOGI PIECEaWHITE DIAMOND IN SQUAREaCROSSING LANESaDISABLED CARaOPHIUCHUSaPICK
aCAR SLIDINGaHELMET WITH WHITE CROSSaCIRCLED CROSSING LANESaCHAINSaNO ENTRYaALTERNATE ONE-WAY LEFT W
AY TRAFFICaBLACK TWO-WAY LEFT WAY TRAFFICaWHITE TWO-WAY LEFT WAY TRAFFICaBLACK LEFT LANE MERGEaWHIT
E LEFT LANE MERGEaDRIVE SLOW SIGNaHEAVY WHITE DOWN-POINTING TRIANGLEaLEFT CLOSED ENTRYaSQUARED SALTI
REaFALLING DIAGONAL IN WHITE CIRCLE IN BLACK SQUAREaBLACK TRUCKaRESTRICTED LEFT ENTRY-1d2aASTRONOMIC
AL SYMBOL FOR URANUSaHEAVY CIRCLE WITH STROKE AND TWO DOTS ABOVEaPENTAGRAMaRIGHT-HANDED INTERLACED P
ENTAGRAMaLEFT-HANDED INTERLACED PENTAGRAMaINVERTED PENTAGRAMaBLACK CROSS ON SHIELDaSHINTO SHRINEaCHU
RCHaCASTLEaHISTORIC SITEaGEAR WITHOUT HUBbWITH HANDLESaMAP SYMBOL FOR LIGHTHOUSEaMOUNTAINaUMBRELLA O
N GROUNDaFOUNTAINaFLAG IN HOLEaFERRYaSAILBOATaSQUARE FOUR CORNERSaSKIERaICE SKATEaPERSON WITH BALLaT
ENTaJAPANESE BANK SYMBOLaHEADSTONE GRAVEYARD SYMBOLaFUEL PUMPaCUP ON BLACK SQUAREaWHITE FLAG WITH HO
RIZONTAL MIDDLE BLACK STRIPEaBLACK SAFETY SCISSORSaUPPER BLADE SCISSORSaBLACK SCISSORSaLOWER BLADE S
CISSORSaWHITE SCISSORSbHEAVY CHECK MARKaTELEPHONE LOCATION SIGNaTAPE DRIVEaAIRPLANEaENVELOPEaRAISE
D FISTbHANDaVICTORY HANDaWRITING HANDaLOWER RIGHT PENCILaPENCILaUPPER RIGHT PENCILaWHITE NIBaBLACK N
IBaCHECK MARKaHEAVY CHECK MARKaMULTIPLICATION XaHEAVY MULTIPLICATION XaBALLOT XaHEAVY BALLOT XaOUTLI
NED GREEK CROSSaHEAVY GREEK CROSSaOPEN CENTRE CROSSaHEAVY OPEN CENTRE CROSSaLATIN CROSSaSHADOWED WHI
TE LATIN CROSSaOUTLINED LATIN CROSSaMALTESE CROSSaSTAR OF DAVIDaFOUR TEARDROP-SPOKED ASTERISKbBALLOO
N-SPOKED ASTERISKaHEAVY FOUR BALLOON-SPOKED ASTERISKaFOUR CLUB-SPOKED ASTERISKaBLACK FOUR POINTED ST
ARaWHITE FOUR POINTED STARaSPARKLESaSTRESS OUTLINED WHITE STARaCIRCLED WHITE STARaOPEN CENTRE BLAC
K STARaBLACK CENTRE WHITE STARaOUTLINED BLACK STARaHEAVY OUTLINED BLACK STARaPINWHEEL STARaSHADOWE
D WHITE STARaHEAVY ASTERISKaOPEN CENTRE ASTERISKaEIGHT SPOKED ASTERISKbPOINTED BLACK STARcPINWHEEL S
TARaSIX POINTED BLACK STARaEIGHT POINTED RECTILINEAR BLACK STARaHEAVY EIGHT POINTED RECTILINEAR BLAC
K STARaTWELVE POINTED BLACK STARaSIXTEEN POINTED ASTERISKaTEARDROP-SPOKED ASTERISKaOPEN CENTRE TEARD
ROP-SPOKED ASTERISKaHEAVY TEARDROP-SPOKED ASTERISKaSIX PETALLED BLACK AND WHITE FLORETTEaBLACK FLORE
TTEaWHITE FLORETTEaEIGHT PETALLED OUTLINED BLACK FLORETTEaCIRCLED OPEN CENTRE EIGHT POINTED STARaHEA
VY TEARDROP-SPOKED PINWHEEL ASTERISKaSNOWFLAKEaTIGHT TRIFOLIATE SNOWFLAKEaHEAVY CHEVRON SNOWFLAKEaSP
ARKLEaHEAVY SPARKLEaBALLOON-SPOKED ASTERISKaEIGHT TEARDROP-SPOKED PROPELLER ASTERISKaHEAVY EIGHT TEA
RDROP-SPOKED PROPELLER ASTERISKaCROSS MARKaSHADOWED WHITE CIRCLEaNEGATIVE SQUARED CROSS MARKaLOWER R
IGHT DROP-SHADOWED WHITE SQUAREaUPPER RIGHT DROP-SHADOWED WHITE SQUAREaLOWER RIGHT SHADOWED WHITE SQ
UAREaUPPER RIGHT SHADOWED WHITE SQUAREaBLACK QUESTION MARK ORNAMENTaWHITE QUESTION MARK ORNAMENTbEXC
LAMATION MARK ORNAMENTaBLACK DIAMOND MINUS WHITE XaHEAVY EXCLAMATION MARK SYMBOLaLIGHT VERTICAL BARa
MEDIUM VERTICAL BARaHEAVY VERTICAL BARbSINGLE TURNED COMMA QUOTATION MARK ORNAMENTcCOMMA QUOTATION M
ARK ORNAMENTbDOUBLE TURNED COMMA QUOTATION MARK ORNAMENTcCOMMA QUOTATION MARK ORNAMENTbLOW SINGLE CO
MMA QUOTATION MARK ORNAMENTcDOUBLE COMMA QUOTATION MARK ORNAMENTaCURVED STEM PARAGRAPH SIGN ORNAMENT
aHEAVY EXCLAMATION MARK ORNAMENTbHEART EXCLAMATION MARK ORNAMENTbBLACK HEARTaROTATED HEAVY BLACK HEA
RT BULLETaFLORAL HEARTaROTATED FLORAL HEART BULLETaMEDIUM LEFT PARENTHESIS ORNAMENTbRIGHT PARENTHESI
S ORNAMENTbFLATTENED LEFT PARENTHESIS ORNAMENTcRIGHT PARENTHESIS ORNAMENTbLEFT-POINTING ANGLE BRACKE
T ORNAMENTbRIGHT-POINTING ANGLE BRACKET ORNAMENTaHEAVY LEFT-POINTING ANGLE QUOTATION MARK ORNAMENTbR
IGHT-POINTING ANGLE QUOTATION MARK ORNAMENTbLEFT-POINTING ANGLE BRACKET ORNAMENTbRIGHT-POINTING ANGL
E BRACKET ORNAMENTaLIGHT LEFT TORTOISE SHELL BRACKET ORNAMENTbRIGHT TORTOISE SHELL BRACKET ORNAMENTa
MEDIUM LEFT CURLY BRACKET ORNAMENTbRIGHT CURLY BRACKET ORNAMENTaDINGBAT NEGATIVE CIRCLED DIGIT ONEeT
WOeTHREEeFOUReFIVEeSIXeSEVENeEIGHTeNINEdNUMBER TENbCIRCLED SANS-SERIF DIGIT ONEfTWOfTHREEfFOURfFIVEf
SIXfSEVENfEIGHTfNINEeNUMBER TENbNEGATIVE CIRCLED SANS-SERIF DIGIT ONEgTWOgTHREEgFOURgFIVEgSIXgSEVENg
EIGHTgNINEfNUMBER TENaHEAVY WIDE-HEADED RIGHTWARDS ARROWbPLUS SIGNbMINUS SIGNbDIVISION SIGNbSOUTH EA
ST ARROWbRIGHTWARDS ARROWbNORTH EAST ARROWaDRAFTING POINT RIGHTWARDS ARROWaHEAVY ROUND-TIPPED RIGHTW
ARDS ARROWaTRIANGLE-HEADED RIGHTWARDS ARROWaHEAVY TRIANGLE-HEADED RIGHTWARDS ARROWaDASHED TRIANGLE-H
EADED RIGHTWARDS ARROWaHEAVY DASHED TRIANGLE-HEADED RIGHTWARDS ARROWaBLACK RIGHTWARDS ARROWaTHREE-
D TOP-LIGHTED RIGHTWARDS ARROWHEADcBOTTOM-LIGHTED RIGHTWARDS ARROWHEADaBLACK RIGHTWARDS ARROWHEADaHE
AVY BLACK CURVED DOWNWARDS AND RIGHTWARDS ARROWdUPWARDS AND RIGHTWARDS ARROWaSQUAT BLACK RIGHTWARD
S ARROWaHEAVY CONCAVE-POINTED BLACK RIGHTWARDS ARROWaRIGHT-SHADED WHITE RIGHTWARDS ARROWaLEFT-SHADE
D WHITE RIGHTWARDS ARROWaBACK-TILTED SHADOWED WHITE RIGHTWARDS ARROWaFRONT-TILTED SHADOWED WHITE RIG
HTWARDS ARROWaHEAVY LOWER RIGHT-SHADOWED WHITE RIGHTWARDS ARROWbUPPER RIGHT-SHADOWED WHITE RIGHTWARD
S ARROWaNOTCHED LOWER RIGHT-SHADOWED WHITE RIGHTWARDS ARROWaCURLY LOOPaNOTCHED UPPER RIGHT-SHADOWE
D WHITE RIGHTWARDS ARROWaCIRCLED HEAVY WHITE RIGHTWARDS ARROWaWHITE-FEATHERED RIGHTWARDS ARROWaBLACK
-FEATHERED SOUTH EAST ARROWcRIGHTWARDS ARROWcNORTH EAST ARROWaHEAVY BLACK-FEATHERED SOUTH EAST ARROW
dRIGHTWARDS ARROWdNORTH EAST ARROWaTEARDROP-BARBED RIGHTWARDS ARROWaHEAVY TEARDROP-SHANKED RIGHTWARD
S ARROWaWEDGE-TAILED RIGHTWARDS ARROWaHEAVY WEDGE-TAILED RIGHTWARDS ARROWaOPEN-OUTLINED RIGHTWARDS A
RROWaDOUBLE CURLY LOOPaTHREE DIMENSIONAL ANGLEaWHITE TRIANGLE CONTAINING SMALL WHITE TRIANGLEaPERPEN
DICULARaOPEN SUBSETbSUPERSETaLEFT S-SHAPED BAG DELIMITERaRIGHT S-SHAPED BAG DELIMITERaOR WITH DOT IN
SIDEaREVERSE SOLIDUS PRECEDING SUBSETaSUPERSET PRECEDING SOLIDUSaVERTICAL BAR WITH HORIZONTAL STROKE
aMATHEMATICAL RISING DIAGONALaLONG DIVISIONaMATHEMATICAL FALLING DIAGONALaSQUARED LOGICAL ANDcORaWHI
TE DIAMOND WITH CENTRED DOTaAND WITH DOTaELEMENT OF OPENING UPWARDSaLOWER RIGHT CORNER WITH DOTaUPPE
R LEFT CORNER WITH DOTaLEFT OUTER JOINaRIGHT OUTER JOINaFULL OUTER JOINaLARGE UP TACKbDOWN TACKaLEF
T AND RIGHT DOUBLE TURNSTILEdTACKbMULTIMAPaLONG RIGHT TACKbLEFT TACKaUP TACK WITH CIRCLE ABOVEaLOZEN
GE DIVIDED BY HORIZONTAL RULEaWHITE CONCAVE-SIDED DIAMONDdDIAMOND WITH LEFTWARDS TICKfRIGHTWARDS TIC
KbSQUARE WITH LEFTWARDS TICKdRIGHTWARDS TICKaMATHEMATICAL LEFT WHITE SQUARE BRACKETbRIGHT WHITE SQUA
RE BRACKETbLEFT ANGLE BRACKETbRIGHT ANGLE BRACKETbLEFT DOUBLE ANGLE BRACKETbRIGHT DOUBLE ANGLE BRACK
ETbLEFT WHITE TORTOISE SHELL BRACKETbRIGHT WHITE TORTOISE SHELL BRACKETbLEFT FLATTENED PARENTHESISbR
IGHT FLATTENED PARENTHESISaUPWARDS QUADRUPLE ARROWaDOWNWARDS QUADRUPLE ARROWaANTICLOCKWISE GAPPED CI
RCLE ARROWaCLOCKWISE GAPPED CIRCLE ARROWaRIGHT ARROW WITH CIRCLED PLUSaLONG LEFTWARDS ARROWbRIGHTWAR
DS ARROWbLEFT RIGHT ARROWbLEFTWARDS DOUBLE ARROWbRIGHTWARDS DOUBLE ARROWbLEFT RIGHT DOUBLE ARROWbLEF
TWARDS ARROW FROM BARbRIGHTWARDS ARROW FROM BARbLEFTWARDS DOUBLE ARROW FROM BARbRIGHTWARDS DOUBLE AR
ROW FROM BARcSQUIGGLE ARROWaBRAILLE PATTERN BLANKcDOTS-1d2d12d3d13d23d123d4d14d24d124d34d134d234d123
4d5d15d25d125d35d135d235d1235d45d145d245d1245d345d1345d2345d12345d6d16d26d126d36d136d236d1236d46d146
d246d1246d346d1346d2346d12346d56d156d256d1256d356d1356d2356d12356d456d1456d2456d12456d3456d13456d234
56d123456d7d17d27d127d37d137d237d1237d47d147d247d1247d347d1347d2347d12347d57d157d257d1257d357d1357d2
357d12357d457d1457d2457d12457d3457d13457d23457d123457d67d167d267d1267d367d1367d2367d12367d467d1467d2
467d12467d3467d13467d23467d123467d567d1567d2567d12567d3567d13567d23567d123567d4567d14567d24567d12456
7d34567d134567d234567d1234567d8d18d28d128d38d138d238d1238d48d148d248d1248d348d1348d2348d12348d58d158
d258d1258d358d1358d2358d12358d458d1458d2458d12458d3458d13458d23458d123458d68d168d268d1268d368d1368d2
368d12368d468d1468d2468d12468d3468d13468d23468d123468d568d1568d2568d12568d3568d13568d23568d123568d45
68d14568d24568d124568d34568d134568d234568d1234568d78d178d278d1278d378d1378d2378d12378d478d1478d2478d
12478d3478d13478d23478d123478d578d1578d2578d12578d3578d13578d23578d123578d4578d14578d24578d124578d34
578d134578d234578d1234578d678d1678d2678d12678d3678d13678d23678d123678d4678d14678d24678d124678d34678d
134678d234678d1234678d5678d15678d25678d125678d35678d135678d235678d1235678d45678d145678d245678d124567
8d345678d1345678d2345678d12345678aRIGHTWARDS TWO-HEADED ARROW WITH VERTICAL STROKEfDOUBLE VERTICAL S
TROKEaLEFTWARDS DOUBLE ARROW WITH VERTICAL STROKEaRIGHTWARDS DOUBLE ARROW WITH VERTICAL STROKEaLEF
T RIGHT DOUBLE ARROW WITH VERTICAL STROKEaRIGHTWARDS TWO-HEADED ARROW FROM BARaLEFTWARDS DOUBLE ARRO
W FROM BARaRIGHTWARDS DOUBLE ARROW FROM BARaDOWNWARDS ARROW WITH HORIZONTAL STROKEaUPWARDS ARROW WIT
H HORIZONTAL STROKEbTRIPLE ARROWaDOWNWARDS TRIPLE ARROWaLEFTWARDS DOUBLE DASH ARROWaRIGHTWARDS DOUBL
E DASH ARROWaLEFTWARDS TRIPLE DASH ARROWaRIGHTWARDS TRIPLE DASH ARROWbTWO-HEADED TRIPLE DASH ARROWbA
RROW WITH DOTTED STEMaUPWARDS ARROW TO BARaDOWNWARDS ARROW TO BARaRIGHTWARDS ARROW WITH TAIL WITH VE
RTICAL STROKEfDOUBLE VERTICAL STROKEbTWO-HEADED ARROW WITH TAILfTAIL WITH VERTICAL STROKEhDOUBLE VER
TICAL STROKEaLEFTWARDS ARROW-TAILaRIGHTWARDS ARROW-TAILaLEFTWARDS DOUBLE ARROW-TAILaRIGHTWARDS DOUBL
E ARROW-TAILaLEFTWARDS ARROW TO BLACK DIAMONDaRIGHTWARDS ARROW TO BLACK DIAMONDaLEFTWARDS ARROW FRO
M BAR TO BLACK DIAMONDaRIGHTWARDS ARROW FROM BAR TO BLACK DIAMONDaNORTH WEST AND SOUTH EAST ARROWbEA
ST AND SOUTH WEST ARROWbWEST ARROW WITH HOOKbEAST ARROW WITH HOOKaSOUTH EAST ARROW WITH HOOKbWEST AR
ROW WITH HOOKaNORTH WEST ARROW AND NORTH EAST ARROWbEAST ARROW AND SOUTH EAST ARROWaSOUTH EAST ARRO
W AND SOUTH WEST ARROWbWEST ARROW AND NORTH WEST ARROWaRISING DIAGONAL CROSSING FALLING DIAGONALaFAL
LING DIAGONAL CROSSING RISING DIAGONALaSOUTH EAST ARROW CROSSING NORTH EAST ARROWaNORTH EAST ARROW C
ROSSING SOUTH EAST ARROWaFALLING DIAGONAL CROSSING NORTH EAST ARROWaRISING DIAGONAL CROSSING SOUTH E
AST ARROWaNORTH EAST ARROW CROSSING NORTH WEST ARROWbWEST ARROW CROSSING NORTH EAST ARROWaWAVE ARRO
W POINTING DIRECTLY RIGHTaARROW POINTING RIGHTWARDS THEN CURVING UPWARDSfDOWNWARDScDOWNWARDS THEN CU
RVING LEFTWARDSfRIGHTWARDSaRIGHT-SIDE ARC CLOCKWISE ARROWaLEFT-SIDE ARC ANTICLOCKWISE ARROWaTOP AR
C ANTICLOCKWISE ARROWaBOTTOM ARC ANTICLOCKWISE ARROWaTOP ARC CLOCKWISE ARROW WITH MINUScANTICLOCKWIS
E ARROW WITH PLUSaLOWER RIGHT SEMICIRCULAR CLOCKWISE ARROWbLEFT SEMICIRCULAR ANTICLOCKWISE ARROWaANT
ICLOCKWISE CLOSED CIRCLE ARROWaCLOCKWISE CLOSED CIRCLE ARROWaRIGHTWARDS ARROW ABOVE SHORT LEFTWARD
S ARROWaLEFTWARDS ARROW ABOVE SHORT RIGHTWARDS ARROWaSHORT RIGHTWARDS ARROW ABOVE LEFTWARDS ARROWaRI
GHTWARDS ARROW WITH PLUS BELOWaLEFTWARDS ARROW WITH PLUS BELOWaRIGHTWARDS ARROW THROUGH XaLEFT RIGH
T ARROW THROUGH SMALL CIRCLEaUPWARDS TWO-HEADED ARROW FROM SMALL CIRCLEaLEFT BARB UP RIGHT BARB DOW
N HARPOONcDOWN RIGHT BARB UP HARPOONaUP BARB RIGHT DOWN BARB LEFT HARPOONcLEFT DOWN BARB RIGHT HARPO
ONaLEFT BARB UP RIGHT BARB UP HARPOONaUP BARB RIGHT DOWN BARB RIGHT HARPOONaLEFT BARB DOWN RIGHT BAR
B DOWN HARPOONaUP BARB LEFT DOWN BARB LEFT HARPOONaLEFTWARDS HARPOON WITH BARB UP TO BARaRIGHTWARD
S HARPOON WITH BARB UP TO BARaUPWARDS HARPOON WITH BARB RIGHT TO BARaDOWNWARDS HARPOON WITH BARB RIG
HT TO BARaLEFTWARDS HARPOON WITH BARB DOWN TO BARaRIGHTWARDS HARPOON WITH BARB DOWN TO BARaUPWARDS H
ARPOON WITH BARB LEFT TO BARaDOWNWARDS HARPOON WITH BARB LEFT TO BARaLEFTWARDS HARPOON WITH BARB U
P FROM BARaRIGHTWARDS HARPOON WITH BARB UP FROM BARaUPWARDS HARPOON WITH BARB RIGHT FROM BARaDOWNWAR
DS HARPOON WITH BARB RIGHT FROM BARaLEFTWARDS HARPOON WITH BARB DOWN FROM BARaRIGHTWARDS HARPOON WIT
H BARB DOWN FROM BARaUPWARDS HARPOON WITH BARB LEFT FROM BARaDOWNWARDS HARPOON WITH BARB LEFT FROM B
ARaLEFTWARDS HARPOON WITH BARB UP ABOVE LEFTWARDS HARPOON WITH BARB DOWNaUPWARDS HARPOON WITH BARB L
EFT BESIDE UPWARDS HARPOON WITH BARB RIGHTaRIGHTWARDS HARPOON WITH BARB UP ABOVE RIGHTWARDS HARPOO
N WITH BARB DOWNaDOWNWARDS HARPOON WITH BARB LEFT BESIDE DOWNWARDS HARPOON WITH BARB RIGHTaLEFTWARD
S HARPOON WITH BARB UP ABOVE RIGHTWARDS HARPOON WITH BARB UPeDOWN ABOVE RIGHTWARDS HARPOON WITH BAR
B DOWNaRIGHTWARDS HARPOON WITH BARB UP ABOVE LEFTWARDS HARPOON WITH BARB UPeDOWN ABOVE LEFTWARDS HAR
POON WITH BARB DOWNaLEFTWARDS HARPOON WITH BARB UP ABOVE LONG DASHeDOWN BELOW LONG DASHaRIGHTWARDS H
ARPOON WITH BARB UP ABOVE LONG DASHeDOWN BELOW LONG DASHaUPWARDS HARPOON WITH BARB LEFT BESIDE DOWNW
ARDS HARPOON WITH BARB RIGHTaDOWNWARDS HARPOON WITH BARB LEFT BESIDE UPWARDS HARPOON WITH BARB RIGHT
aRIGHT DOUBLE ARROW WITH ROUNDED HEADaEQUALS SIGN ABOVE RIGHTWARDS ARROWaTILDE OPERATOR ABOVE RIGHTW
ARDS ARROWaLEFTWARDS ARROW ABOVE TILDE OPERATORaRIGHTWARDS ARROW ABOVE TILDE OPERATORdALMOST EQUAL T
OaLESS-THAN ABOVE LEFTWARDS ARROWaLEFTWARDS ARROW THROUGH LESS-THANaGREATER-THAN ABOVE RIGHTWARDS AR
ROWaSUBSET ABOVE RIGHTWARDS ARROWaLEFTWARDS ARROW THROUGH SUBSETaSUPERSET ABOVE LEFTWARDS ARROWaLEF
T FISH TAILaRIGHT FISH TAILaUP FISH TAILaDOWN FISH TAILaTRIPLE VERTICAL BAR DELIMITERaZ NOTATION SPO
TcTYPE COLONaLEFT WHITE CURLY BRACKETaRIGHT WHITE CURLY BRACKETaLEFT WHITE PARENTHESISaRIGHT WHITE P
ARENTHESISaZ NOTATION LEFT IMAGE BRACKETcRIGHT IMAGE BRACKETcLEFT BINDING BRACKETcRIGHT BINDING BRAC
KETaLEFT SQUARE BRACKET WITH UNDERBARaRIGHT SQUARE BRACKET WITH UNDERBARaLEFT SQUARE BRACKET WITH TI
CK IN TOP CORNERaRIGHT SQUARE BRACKET WITH TICK IN BOTTOM CORNERaLEFT SQUARE BRACKET WITH TICK IN BO
TTOM CORNERaRIGHT SQUARE BRACKET WITH TICK IN TOP CORNERaLEFT ANGLE BRACKET WITH DOTaRIGHT ANGLE BRA
CKET WITH DOTaLEFT ARC LESS-THAN BRACKETaRIGHT ARC GREATER-THAN BRACKETaDOUBLE LEFT ARC GREATER-THA
N BRACKETbRIGHT ARC LESS-THAN BRACKETaLEFT BLACK TORTOISE SHELL BRACKETaRIGHT BLACK TORTOISE SHELL B
RACKETaDOTTED FENCEaVERTICAL ZIGZAG LINEaMEASURED ANGLE OPENING LEFTaRIGHT ANGLE VARIANT WITH SQUARE
aMEASURED RIGHT ANGLE WITH DOTaANGLE WITH S INSIDEaACUTE ANGLEaSPHERICAL ANGLE OPENING LEFTdUPaTURNE
D ANGLEaREVERSED ANGLEaANGLE WITH UNDERBARaREVERSED ANGLE WITH UNDERBARaOBLIQUE ANGLE OPENING UPdDOW
NaMEASURED ANGLE WITH OPEN ARM ENDING IN ARROW POINTING UP AND RIGHTlLEFTjDOWN AND RIGHTlLEFTjRIGH
T AND UPjLEFT AND UPjRIGHT AND DOWNjLEFT AND DOWNaREVERSED EMPTY SETaEMPTY SET WITH OVERBARdSMALL CI
RCLE ABOVEdRIGHT ARROW ABOVEdLEFT ARROW ABOVEaCIRCLE WITH HORIZONTAL BARaCIRCLED VERTICAL BARbPARALL
ELbREVERSE SOLIDUSbPERPENDICULARaCIRCLE DIVIDED BY HORIZONTAL BAR AND TOP HALF DIVIDED BY VERTICAL B
ARbWITH SUPERIMPOSED XaCIRCLED ANTICLOCKWISE-ROTATED DIVISION SIGNaUP ARROW THROUGH CIRCLEaCIRCLED W
HITE BULLETbBULLETbLESS-THANbGREATER-THANaCIRCLE WITH SMALL CIRCLE TO THE RIGHTcTWO HORIZONTAL STROK
ES TO THE RIGHTaSQUARED RISING DIAGONAL SLASHbFALLING DIAGONAL SLASHbASTERISKbSMALL CIRCLEbSQUAREaTW
O JOINED SQUARESaTRIANGLE WITH DOT ABOVEcUNDERBARaS IN TRIANGLEaTRIANGLE WITH SERIFS AT BOTTOMaRIGH
T TRIANGLE ABOVE LEFT TRIANGLEaLEFT TRIANGLE BESIDE VERTICAL BARaVERTICAL BAR BESIDE RIGHT TRIANGLEa
BOWTIE WITH LEFT HALF BLACKcRIGHT HALF BLACKaBLACK BOWTIEaTIMES WITH LEFT HALF BLACKcRIGHT HALF BLAC
KaWHITE HOURGLASSaBLACK HOURGLASSaLEFT WIGGLY FENCEaRIGHT WIGGLY FENCEaLEFT DOUBLE WIGGLY FENCEaRIGH
T DOUBLE WIGGLY FENCEaINCOMPLETE INFINITYaTIE OVER INFINITYaINFINITY NEGATED WITH VERTICAL BARaDOUBL
E-ENDED MULTIMAPaSQUARE WITH CONTOURED OUTLINEaINCREASES ASaSHUFFLE PRODUCTaEQUALS SIGN AND SLANTE
D PARALLELePARALLEL WITH TILDE ABOVEaIDENTICAL TO AND SLANTED PARALLELaGLEICH STARKaTHERMODYNAMICaDO
WN-POINTING TRIANGLE WITH LEFT HALF BLACKeRIGHT HALF BLACKaBLACK DIAMOND WITH DOWN ARROWbLOZENGEaWHI
TE CIRCLE WITH DOWN ARROWaBLACK CIRCLE WITH DOWN ARROWaERROR-BARRED WHITE SQUAREcBLACK SQUAREcWHIT
E DIAMONDcBLACK DIAMONDcWHITE CIRCLEcBLACK CIRCLEaRULE-DELAYEDaREVERSE SOLIDUS OPERATORaSOLIDUS WIT
H OVERBARaREVERSE SOLIDUS WITH HORIZONTAL STROKEaBIG SOLIDUSbREVERSE SOLIDUSaDOUBLE PLUSaTRIPLE PLUS
aLEFT-POINTING CURVED ANGLE BRACKETaRIGHT-POINTING CURVED ANGLE BRACKETaTINYaMINYaN-ARY CIRCLED DO
T OPERATORdPLUS OPERATORdTIMES OPERATORcUNION OPERATOR WITH DOTfPLUScSQUARE INTERSECTION OPERATORdUN
ION OPERATORaTWO LOGICAL AND OPERATORcOR OPERATORaN-ARY TIMES OPERATORaMODULO TWO SUMaSUMMATION WIT
H INTEGRALaQUADRUPLE INTEGRAL OPERATORaFINITE PART INTEGRALaINTEGRAL WITH DOUBLE STROKEbAVERAGE WIT
H SLASHaCIRCULATION FUNCTIONaANTICLOCKWISE INTEGRATIONaLINE INTEGRATION WITH RECTANGULAR PATH AROUN
D POLEdSEMICIRCULAR PATH AROUND POLEcNOT INCLUDING THE POLEaINTEGRAL AROUND A POINT OPERATORaQUATERN
ION INTEGRAL OPERATORaINTEGRAL WITH LEFTWARDS ARROW WITH HOOKcTIMES SIGNcINTERSECTIONcUNIONcOVERBARc
UNDERBARaJOINaLARGE LEFT TRIANGLE OPERATORaZ NOTATION SCHEMA COMPOSITIONdPIPINGdPROJECTIONaPLUS SIG
N WITH SMALL CIRCLE ABOVEdCIRCUMFLEX ACCENT ABOVEdTILDE ABOVEdDOT BELOWdTILDE BELOWdSUBSCRIPT TWOdBL
ACK TRIANGLEaMINUS SIGN WITH COMMA ABOVEdDOT BELOWdFALLING DOTSdRISING DOTSaPLUS SIGN IN LEFT HALF C
IRCLEdRIGHT HALF CIRCLEaVECTOR OR CROSS PRODUCTaMULTIPLICATION SIGN WITH DOT ABOVEdUNDERBARaSEMIDIRE
CT PRODUCT WITH BOTTOM CLOSEDaSMASH PRODUCTaMULTIPLICATION SIGN IN LEFT HALF CIRCLEdRIGHT HALF CIRCL
EaCIRCLED MULTIPLICATION SIGN WITH CIRCUMFLEX ACCENTaMULTIPLICATION SIGN IN DOUBLE CIRCLEaCIRCLED DI
VISION SIGNaPLUS SIGN IN TRIANGLEaMINUS SIGN IN TRIANGLEaMULTIPLICATION SIGN IN TRIANGLEaINTERIOR PR
ODUCTaRIGHTHAND INTERIOR PRODUCTaZ NOTATION RELATIONAL COMPOSITIONaAMALGAMATION OR COPRODUCTaINTERSE
CTION WITH DOTaUNION WITH MINUS SIGNcOVERBARaINTERSECTION WITH OVERBARcLOGICAL ANDaUNION WITH LOGICA
L ORbABOVE INTERSECTIONaINTERSECTION ABOVE UNIONaUNION ABOVE BAR ABOVE INTERSECTIONaINTERSECTION ABO
VE BAR ABOVE UNIONaUNION BESIDE AND JOINED WITH UNIONaINTERSECTION BESIDE AND JOINED WITH INTERSECTI
ONaCLOSED UNION WITH SERIFSbINTERSECTION WITH SERIFSaDOUBLE SQUARE INTERSECTIONcUNIONaCLOSED UNION W
ITH SERIFS AND SMASH PRODUCTaLOGICAL AND WITH DOT ABOVEbOR WITH DOT ABOVEaDOUBLE LOGICAL ANDcORaTW
O INTERSECTING LOGICAL ANDdORaSLOPING LARGE ORcANDaLOGICAL OR OVERLAPPING LOGICAL ANDbAND WITH MIDDL
E STEMbOR WITH MIDDLE STEMbAND WITH HORIZONTAL DASHbOR WITH HORIZONTAL DASHbAND WITH DOUBLE OVERBARd
UNDERBARdDOUBLE UNDERBARaSMALL VEE WITH UNDERBARaLOGICAL OR WITH DOUBLE OVERBAReUNDERBARaZ NOTATIO
N DOMAIN ANTIRESTRICTIONcRANGE ANTIRESTRICTIONaEQUALS SIGN WITH DOT BELOWaIDENTICAL WITH DOT ABOVEaT
RIPLE HORIZONTAL BAR WITH DOUBLE VERTICAL STROKEeTRIPLE VERTICAL STROKEaTILDE OPERATOR WITH DOT ABOV
EdRISING DOTSaSIMILAR MINUS SIMILARaCONGRUENT WITH DOT ABOVEaEQUALS WITH ASTERISKaALMOST EQUAL TO WI
TH CIRCUMFLEX ACCENTaAPPROXIMATELY EQUAL OR EQUAL TOaEQUALS SIGN ABOVE PLUS SIGNaPLUS SIGN ABOVE EQU
ALS SIGNaEQUALS SIGN ABOVE TILDE OPERATORaDOUBLE COLON EQUALaTWO CONSECUTIVE EQUALS SIGNSaTHREE CONS
ECUTIVE EQUALS SIGNSaEQUALS SIGN WITH TWO DOTS ABOVE AND TWO DOTS BELOWaEQUIVALENT WITH FOUR DOTS AB
OVEaLESS-THAN WITH CIRCLE INSIDEaGREATER-THAN WITH CIRCLE INSIDEaLESS-THAN WITH QUESTION MARK ABOVEa
GREATER-THAN WITH QUESTION MARK ABOVEaLESS-THAN OR SLANTED EQUAL TOaGREATER-THAN OR SLANTED EQUAL TO
aLESS-THAN OR SLANTED EQUAL TO WITH DOT INSIDEaGREATER-THAN OR SLANTED EQUAL TO WITH DOT INSIDEaLESS
-THAN OR SLANTED EQUAL TO WITH DOT ABOVEaGREATER-THAN OR SLANTED EQUAL TO WITH DOT ABOVEaLESS-THAN O
R SLANTED EQUAL TO WITH DOT ABOVE RIGHTaGREATER-THAN OR SLANTED EQUAL TO WITH DOT ABOVE LEFTaLESS-TH
AN OR APPROXIMATEaGREATER-THAN OR APPROXIMATEaLESS-THAN AND SINGLE-LINE NOT EQUAL TOaGREATER-THAN AN
D SINGLE-LINE NOT EQUAL TOaLESS-THAN AND NOT APPROXIMATEaGREATER-THAN AND NOT APPROXIMATEaLESS-THA
N ABOVE DOUBLE-LINE EQUAL ABOVE GREATER-THANaGREATER-THAN ABOVE DOUBLE-LINE EQUAL ABOVE LESS-THANaLE
SS-THAN ABOVE SIMILAR OR EQUALaGREATER-THAN ABOVE SIMILAR OR EQUALaLESS-THAN ABOVE SIMILAR ABOVE GRE
ATER-THANaGREATER-THAN ABOVE SIMILAR ABOVE LESS-THANaLESS-THAN ABOVE GREATER-THAN ABOVE DOUBLE-LIN
E EQUALaGREATER-THAN ABOVE LESS-THAN ABOVE DOUBLE-LINE EQUALaLESS-THAN ABOVE SLANTED EQUAL ABOVE GRE
ATER-THAN ABOVE SLANTED EQUALaGREATER-THAN ABOVE SLANTED EQUAL ABOVE LESS-THAN ABOVE SLANTED EQUALaS
LANTED EQUAL TO OR LESS-THANeGREATER-THANeLESS-THAN WITH DOT INSIDEeGREATER-THAN WITH DOT INSIDEaDOU
BLE-LINE EQUAL TO OR LESS-THANfGREATER-THANcSLANTED EQUAL TO OR LESS-THANgGREATER-THANaSIMILAR OR LE
SS-THANcGREATER-THANbABOVE LESS-THAN ABOVE EQUALS SIGNcGREATER-THAN ABOVE EQUALS SIGNaDOUBLE NESTE
D LESS-THANcGREATER-THANcLESS-THAN WITH UNDERBARaGREATER-THAN OVERLAPPING LESS-THANcBESIDE LESS-THAN
aLESS-THAN CLOSED BY CURVEaGREATER-THAN CLOSED BY CURVEaLESS-THAN CLOSED BY CURVE ABOVE SLANTED EQUA
LaGREATER-THAN CLOSED BY CURVE ABOVE SLANTED EQUALaSMALLER THANaLARGER THANaSMALLER THAN OR EQUAL TO
aLARGER THAN OR EQUAL TOaEQUALS SIGN WITH BUMPY ABOVEaPRECEDES ABOVE SINGLE-LINE EQUALS SIGNaSUCCEED
S ABOVE SINGLE-LINE EQUALS SIGNaPRECEDES ABOVE SINGLE-LINE NOT EQUAL TOaSUCCEEDS ABOVE SINGLE-LINE N
OT EQUAL TOaPRECEDES ABOVE EQUALS SIGNaSUCCEEDS ABOVE EQUALS SIGNaPRECEDES ABOVE NOT EQUAL TOaSUCCEE
DS ABOVE NOT EQUAL TOaPRECEDES ABOVE ALMOST EQUAL TOaSUCCEEDS ABOVE ALMOST EQUAL TOaPRECEDES ABOVE N
OT ALMOST EQUAL TOaSUCCEEDS ABOVE NOT ALMOST EQUAL TOaDOUBLE PRECEDESbSUCCEEDSaSUBSET WITH DOTaSUPER
SET WITH DOTaSUBSET WITH PLUS SIGN BELOWaSUPERSET WITH PLUS SIGN BELOWaSUBSET WITH MULTIPLICATION SI
GN BELOWaSUPERSET WITH MULTIPLICATION SIGN BELOWaSUBSET OF OR EQUAL TO WITH DOT ABOVEaSUPERSET OF O
R EQUAL TO WITH DOT ABOVEaSUBSET OF ABOVE EQUALS SIGNaSUPERSET OF ABOVE EQUALS SIGNaSUBSET OF ABOV
E TILDE OPERATORaSUPERSET OF ABOVE TILDE OPERATORaSUBSET OF ABOVE ALMOST EQUAL TOaSUPERSET OF ABOV
E ALMOST EQUAL TOaSUBSET OF ABOVE NOT EQUAL TOaSUPERSET OF ABOVE NOT EQUAL TOaSQUARE LEFT OPEN BOX O
PERATORbRIGHT OPEN BOX OPERATORaCLOSED SUBSETbSUPERSETbSUBSET OR EQUAL TObSUPERSET OR EQUAL TOaSUBSE
T ABOVE SUPERSETaSUPERSET ABOVE SUBSETaSUBSET ABOVE SUBSETaSUPERSET ABOVE SUPERSETbBESIDE SUBSETcAN
D JOINED BY DASH WITH SUBSETaELEMENT OF OPENING DOWNWARDSaPITCHFORK WITH TEE TOPaTRANSVERSAL INTERSE
CTIONaFORKINGaNONFORKINGaSHORT LEFT TACKbDOWN TACKbUP TACKaPERPENDICULAR WITH SaVERTICAL BAR TRIPL
E RIGHT TURNSTILEaDOUBLE VERTICAL BAR LEFT TURNSTILEaVERTICAL BAR DOUBLE LEFT TURNSTILEaDOUBLE VERTI
CAL BAR DOUBLE LEFT TURNSTILEaLONG DASH FROM LEFT MEMBER OF DOUBLE VERTICALaSHORT DOWN TACK WITH OVE
RBARbUP TACK WITH UNDERBARdABOVE SHORT DOWN TACKaDOUBLE DOWN TACKbUP TACKbSTROKE NOT SIGNaREVERSED D
OUBLE STROKE NOT SIGNaDOES NOT DIVIDE WITH REVERSED NEGATION SLASHaVERTICAL LINE WITH CIRCLE ABOVEeB
ELOWaDOWN TACK WITH CIRCLE BELOWaPARALLEL WITH HORIZONTAL STROKEcTILDE OPERATORaTRIPLE VERTICAL BA
R BINARY RELATIONdWITH HORIZONTAL STROKEbCOLON OPERATORbNESTED LESS-THANcGREATER-THANaDOUBLE-LINE SL
ANTED LESS-THAN OR EQUAL TOdGREATER-THAN OR EQUAL TOaTRIPLE SOLIDUS BINARY RELATIONaLARGE TRIPLE VER
TICAL BAR OPERATORaDOUBLE SOLIDUS OPERATORaWHITE VERTICAL BARaN-ARY WHITE VERTICAL BARaNORTH EAST WH
ITE ARROWbWEST WHITE ARROWaSOUTH EAST WHITE ARROWbWEST WHITE ARROWaLEFT RIGHT WHITE ARROWaLEFTWARD
S BLACK ARROWaUPWARDS BLACK ARROWaDOWNWARDS BLACK ARROWaNORTH EAST BLACK ARROWbWEST BLACK ARROWaSOUT
H EAST BLACK ARROWbWEST BLACK ARROWaLEFT RIGHT BLACK ARROWaUP DOWN BLACK ARROWaRIGHTWARDS ARROW WIT
H TIP DOWNWARDSeUPWARDSaLEFTWARDS ARROW WITH TIP DOWNWARDSeUPWARDSaSQUARE WITH TOP HALF BLACKcBOTTO
M HALF BLACKcUPPER RIGHT DIAGONAL HALF BLACKcLOWER LEFT DIAGONAL HALF BLACKaDIAMOND WITH LEFT HALF B
LACKcRIGHT HALF BLACKcTOP HALF BLACKcBOTTOM HALF BLACKaDOTTED SQUAREaBLACK LARGE SQUAREaWHITE LARG
E SQUAREaBLACK VERY SMALL SQUAREaWHITE VERY SMALL SQUAREaBLACK PENTAGONaWHITE PENTAGONbHEXAGONaBLAC
K HEXAGONaHORIZONTAL BLACK HEXAGONaBLACK LARGE CIRCLEbMEDIUM DIAMONDaWHITE MEDIUM DIAMONDaBLACK MEDI
UM LOZENGEaWHITE MEDIUM LOZENGEaBLACK SMALL DIAMONDcLOZENGEaWHITE SMALL LOZENGEaBLACK HORIZONTAL ELL
IPSEaWHITE HORIZONTAL ELLIPSEaBLACK VERTICAL ELLIPSEaWHITE VERTICAL ELLIPSEaLEFT ARROW WITH SMALL CI
RCLEaTHREE LEFTWARDS ARROWSaLEFT ARROW WITH CIRCLED PLUSaLONG LEFTWARDS SQUIGGLE ARROWaLEFTWARDS TWO
-HEADED ARROW WITH VERTICAL STROKEfDOUBLE VERTICAL STROKEeFROM BARdTRIPLE DASH ARROWbARROW WITH DOTT
ED STEMdTAIL WITH VERTICAL STROKEfDOUBLE VERTICAL STROKEbTWO-HEADED ARROW WITH TAILfTAIL WITH VERTIC
AL STROKEhDOUBLE VERTICAL STROKEbARROW THROUGH XaWAVE ARROW POINTING DIRECTLY LEFTaEQUALS SIGN ABOV
E LEFTWARDS ARROWaREVERSE TILDE OPERATOR ABOVE LEFTWARDS ARROWaLEFTWARDS ARROW ABOVE REVERSE ALMOS
T EQUAL TOaRIGHTWARDS ARROW THROUGH GREATER-THANdSUPERSETaLEFTWARDS QUADRUPLE ARROWaRIGHTWARDS QUADR
UPLE ARROWaREVERSE TILDE OPERATOR ABOVE RIGHTWARDS ARROWaRIGHTWARDS ARROW ABOVE REVERSE ALMOST EQUA
L TOaTILDE OPERATOR ABOVE LEFTWARDS ARROWaLEFTWARDS ARROW ABOVE ALMOST EQUAL TOdREVERSE TILDE OPERAT
ORaRIGHTWARDS ARROW ABOVE REVERSE TILDE OPERATORaDOWNWARDS TRIANGLE-HEADED ZIGZAG ARROWaSHORT SLANTE
D NORTH ARROWbBACKSLANTED SOUTH ARROWaWHITE MEDIUM STARaBLACK SMALL STARaWHITE SMALL STARaBLACK RIGH
T-POINTING PENTAGONaWHITE RIGHT-POINTING PENTAGONaHEAVY LARGE CIRCLEbOVAL WITH OVAL INSIDEbCIRCLE WI
TH CIRCLE INSIDEbCIRCLEbCIRCLED SALTIREaSLANTED NORTH ARROW WITH HOOKED HEADaBACKSLANTED SOUTH ARRO
W WITH HOOKED TAILaSLANTED NORTH ARROW WITH HORIZONTAL TAILaBACKSLANTED SOUTH ARROW WITH HORIZONTA
L TAILaBENT ARROW POINTING DOWNWARDS THEN NORTH EASTaSHORT BENT ARROW POINTING DOWNWARDS THEN NORT
H EASTaLEFTWARDS TRIANGLE-HEADED ARROWaUPWARDS TRIANGLE-HEADED ARROWaRIGHTWARDS TRIANGLE-HEADED ARRO
WaDOWNWARDS TRIANGLE-HEADED ARROWaLEFT RIGHT TRIANGLE-HEADED ARROWaUP DOWN TRIANGLE-HEADED ARROWaNOR
TH WEST TRIANGLE-HEADED ARROWbEAST TRIANGLE-HEADED ARROWaSOUTH EAST TRIANGLE-HEADED ARROWbWEST TRIAN
GLE-HEADED ARROWaLEFTWARDS TRIANGLE-HEADED DASHED ARROWaUPWARDS TRIANGLE-HEADED DASHED ARROWaRIGHTWA
RDS TRIANGLE-HEADED DASHED ARROWaDOWNWARDS TRIANGLE-HEADED DASHED ARROWaCLOCKWISE TRIANGLE-HEADED OP
EN CIRCLE ARROWaANTICLOCKWISE TRIANGLE-HEADED OPEN CIRCLE ARROWaLEFTWARDS TRIANGLE-HEADED ARROW TO B
ARaUPWARDS TRIANGLE-HEADED ARROW TO BARaRIGHTWARDS TRIANGLE-HEADED ARROW TO BARaDOWNWARDS TRIANGLE-H
EADED ARROW TO BAR=2B76aNORTH WEST TRIANGLE-HEADED ARROW TO BARbEAST TRIANGLE-HEADED ARROW TO BARaSO
UTH EAST TRIANGLE-HEADED ARROW TO BARbWEST TRIANGLE-HEADED ARROW TO BARaLEFTWARDS TRIANGLE-HEADED AR
ROW WITH DOUBLE HORIZONTAL STROKEaUPWARDS TRIANGLE-HEADED ARROW WITH DOUBLE HORIZONTAL STROKEaRIGHTW
ARDS TRIANGLE-HEADED ARROW WITH DOUBLE HORIZONTAL STROKEaDOWNWARDS TRIANGLE-HEADED ARROW WITH DOUBL
E HORIZONTAL STROKEaHORIZONTAL TAB KEYaVERTICAL TAB KEYaLEFTWARDS TRIANGLE-HEADED ARROW OVER RIGHTWA
RDS TRIANGLE-HEADED ARROWaUPWARDS TRIANGLE-HEADED ARROW LEFTWARDS OF DOWNWARDS TRIANGLE-HEADED ARROW
aRIGHTWARDS TRIANGLE-HEADED ARROW OVER LEFTWARDS TRIANGLE-HEADED ARROWaDOWNWARDS TRIANGLE-HEADED ARR
OW LEFTWARDS OF UPWARDS TRIANGLE-HEADED ARROWaLEFTWARDS TRIANGLE-HEADED PAIRED ARROWSaUPWARDS TRIANG
LE-HEADED PAIRED ARROWSaRIGHTWARDS TRIANGLE-HEADED PAIRED ARROWSaDOWNWARDS TRIANGLE-HEADED PAIRED AR
ROWSaLEFTWARDS BLACK CIRCLED WHITE ARROWaUPWARDS BLACK CIRCLED WHITE ARROWaRIGHTWARDS BLACK CIRCLE
D WHITE ARROWaDOWNWARDS BLACK CIRCLED WHITE ARROWaANTICLOCKWISE TRIANGLE-HEADED RIGHT U-SHAPED ARROW
dBOTTOM U-SHAPED ARROWdLEFT U-SHAPED ARROWdTOP U-SHAPED ARROWaRETURN LEFTbRIGHTaNEWLINE LEFTbRIGHTaF
OUR CORNER ARROWS CIRCLING ANTICLOCKWISEaRIGHTWARDS BLACK ARROW=2B97aSYMBOL FOR TYPE A ELECTRONICSaT
HREE-D TOP-LIGHTED LEFTWARDS EQUILATERAL ARROWHEADcRIGHT-LIGHTED UPWARDS EQUILATERAL ARROWHEADcTOP-L
IGHTED RIGHTWARDS EQUILATERAL ARROWHEADcLEFT-LIGHTED DOWNWARDS EQUILATERAL ARROWHEADaBLACK LEFTWARD
S EQUILATERAL ARROWHEADbUPWARDS EQUILATERAL ARROWHEADbRIGHTWARDS EQUILATERAL ARROWHEADbDOWNWARDS EQU
ILATERAL ARROWHEADaDOWNWARDS TRIANGLE-HEADED ARROW WITH LONG TIP LEFTWARDShRIGHTWARDSaUPWARDS TRIANG
LE-HEADED ARROW WITH LONG TIP LEFTWARDShRIGHTWARDSaLEFTWARDS TRIANGLE-HEADED ARROW WITH LONG TIP UPW
ARDSaRIGHTWARDS TRIANGLE-HEADED ARROW WITH LONG TIP UPWARDSaLEFTWARDS TRIANGLE-HEADED ARROW WITH LON
G TIP DOWNWARDSaRIGHTWARDS TRIANGLE-HEADED ARROW WITH LONG TIP DOWNWARDSaBLACK CURVED DOWNWARDS AN
D LEFTWARDS ARROWeRIGHTWARDS ARROWcUPWARDS AND LEFTWARDS ARROWeRIGHTWARDS ARROWcLEFTWARDS AND UPWARD
S ARROWcRIGHTWARDS AND UPWARDS ARROWcLEFTWARDS AND DOWNWARDS ARROWcRIGHTWARDS AND DOWNWARDS ARROWaRI
BBON ARROW DOWN LEFTdRIGHTcUP LEFTdRIGHTcLEFT UPcRIGHT UPcLEFT DOWNcRIGHT DOWNaUPWARDS WHITE ARROW F
ROM BAR WITH HORIZONTAL BARaUP ARROWHEAD IN A RECTANGLE BOXaOVERLAPPING WHITE SQUAREScAND BLACK SQUA
RESbBLACK SQUARESaBALLOT BOX WITH LIGHT XaCIRCLED XbBOLD XaBLACK SQUARE CENTREDbDIAMOND CENTREDaTURN
ED BLACK PENTAGONaHORIZONTAL BLACK OCTAGONaBLACK OCTAGONbMEDIUM UP-POINTING TRIANGLE CENTREDcDOWN-PO
INTING TRIANGLE CENTREDcLEFT-POINTING TRIANGLE CENTREDcRIGHT-POINTING TRIANGLE CENTREDaNEPTUNE FOR
M TWOaTOP HALF BLACK CIRCLEaBOTTOM HALF BLACK CIRCLEaLIGHT FOUR POINTED BLACK CUSPaROTATED LIGHT FOU
R POINTED BLACK CUSPaWHITE FOUR POINTED CUSPaROTATED WHITE FOUR POINTED CUSPaSQUARE POSITION INDICAT
ORaUNCERTAINTY SIGNaGROUP MARKaPLUTO FORM TWOcTHREEcFOURcFIVEaTRANSPLUTOaPROSERPINAaASTRAEAaHYGIEAaP
HOLUSaNESSUSaWHITE MOON SELENAaBLACK DIAMOND ON CROSSaTRUE LIGHT MOON ARTAaCUPIDOaHADESaZEUSaKRONOSa
APOLLONaADMETOSaVULCANUSaPOSEIDONaLEFT HALF BLACK STARaRIGHT HALF BLACK STARaSTAR WITH LEFT HALF BLA
CKcRIGHT HALF BLACKaLEFTWARDS TWO-HEADED ARROW WITH TRIANGLE ARROWHEADSaUPWARDS TWO-HEADED ARROW WIT
H TRIANGLE ARROWHEADSaRIGHTWARDS TWO-HEADED ARROW WITH TRIANGLE ARROWHEADSaDOWNWARDS TWO-HEADED ARRO
W WITH TRIANGLE ARROWHEADSaERIS FORM ONEcTWOaSEDNAaRUSSIAN ASTROLOGICAL SYMBOL VIGINTILEdNOVILEdQUIN
TILEdBINOVILEdSENTAGONdTREDECILEaEQUALS SIGN WITH INFINITY BELOWaUNITED SYMBOLaSEPARATED SYMBOLaDOUB
LED SYMBOLaPASSED SYMBOLaREVERSED RIGHT ANGLEaHELLSCHREIBER PAUSE SYMBOLaGLAGOLITIC CAPITAL LETTER A
ZUdBUKYdVEDEdGLAGOLIdDOBROdYESTUdZHIVETEdDZELOdZEMLJAdIZHEdINITIAL IZHEdIdDJERVIdKAKOdLJUDIJEdMYSLIT
EdNASHIdONUdPOKOJIdRITSIdSLOVOdTVRIDOdUKUdFRITUdHERUdOTUdPEdSHTAdTSIdCHRIVIdSHAdYERUdYERIdYATIdSPIDE
RY HAdYUdSMALL YUSeYUS WITH TAILdYOdIOTATED SMALL YUSdBIG YUSdIOTATED BIG YUSdFITAdIZHITSAdSHTAPICdT
ROKUTASTI AdLATINATE MYSLITEdCAUDATE CHRIVIbSMALL LETTER AZUdBUKYdVEDEdGLAGOLIdDOBROdYESTUdZHIVETEdD
ZELOdZEMLJAdIZHEdINITIAL IZHEdIdDJERVIdKAKOdLJUDIJEdMYSLITEdNASHIdONUdPOKOJIdRITSIdSLOVOdTVRIDOdUKUd
FRITUdHERUdOTUdPEdSHTAdTSIdCHRIVIdSHAdYERUdYERIdYATIdSPIDERY HAdYUdSMALL YUSeYUS WITH TAILdYOdIOTATE
D SMALL YUSdBIG YUSdIOTATED BIG YUSdFITAdIZHITSAdSHTAPICdTROKUTASTI AdLATINATE MYSLITEdCAUDATE CHRIV
IaLATIN CAPITAL LETTER L WITH DOUBLE BARbSMALL LETTER L WITH DOUBLE BARbCAPITAL LETTER L WITH MIDDL
E TILDEdP WITH STROKEdR WITH TAILbSMALL LETTER A WITH STROKEdT WITH DIAGONAL STROKEbCAPITAL LETTE
R H WITH DESCENDERbSMALL LETTER H WITH DESCENDERbCAPITAL LETTER K WITH DESCENDERbSMALL LETTER K WIT
H DESCENDERbCAPITAL LETTER Z WITH DESCENDERbSMALL LETTER Z WITH DESCENDERbCAPITAL LETTER ALPHAdM WIT
H HOOKdTURNED AeALPHAbSMALL LETTER V WITH RIGHT HOOKbCAPITAL LETTER W WITH HOOKbSMALL LETTER W WIT
H HOOKdV WITH CURLbCAPITAL LETTER HALF HbSMALL LETTER HALF HdTAILLESS PHIdE WITH NOTCHdTURNED R WIT
H TAILdO WITH LOW RING INSIDEbLETTER SMALL CAPITAL TURNED EbSUBSCRIPT SMALL LETTER JaMODIFIER LETTE
R CAPITAL VaLATIN CAPITAL LETTER S WITH SWASH TAILdZ WITH SWASH TAILaCOPTIC CAPITAL LETTER ALFAbSMAL
L LETTER ALFAbCAPITAL LETTER VIDAbSMALL LETTER VIDAbCAPITAL LETTER GAMMAbSMALL LETTER GAMMAbCAPITA
L LETTER DALDAbSMALL LETTER DALDAbCAPITAL LETTER EIEbSMALL LETTER EIEbCAPITAL LETTER SOUbSMALL LETTE
R SOUbCAPITAL LETTER ZATAbSMALL LETTER ZATAbCAPITAL LETTER HATEbSMALL LETTER HATEbCAPITAL LETTER THE
THEbSMALL LETTER THETHEbCAPITAL LETTER IAUDAbSMALL LETTER IAUDAbCAPITAL LETTER KAPAbSMALL LETTER KAP
AbCAPITAL LETTER LAULAbSMALL LETTER LAULAbCAPITAL LETTER MIbSMALL LETTER MIbCAPITAL LETTER NIbSMAL
L LETTER NIbCAPITAL LETTER KSIbSMALL LETTER KSIbCAPITAL LETTER ObSMALL LETTER ObCAPITAL LETTER PIbSM
ALL LETTER PIbCAPITAL LETTER RObSMALL LETTER RObCAPITAL LETTER SIMAbSMALL LETTER SIMAbCAPITAL LETTE
R TAUbSMALL LETTER TAUbCAPITAL LETTER UAbSMALL LETTER UAbCAPITAL LETTER FIbSMALL LETTER FIbCAPITAL L
ETTER KHIbSMALL LETTER KHIbCAPITAL LETTER PSIbSMALL LETTER PSIbCAPITAL LETTER OOUbSMALL LETTER OOUbC
APITAL LETTER DIALECT-P ALEFbSMALL LETTER DIALECT-P ALEFbCAPITAL LETTER OLD COPTIC AINbSMALL LETTE
R OLD COPTIC AINbCAPITAL LETTER CRYPTOGRAMMIC EIEbSMALL LETTER CRYPTOGRAMMIC EIEbCAPITAL LETTER DIAL
ECT-P KAPAbSMALL LETTER DIALECT-P KAPAbCAPITAL LETTER DIALECT-P NIbSMALL LETTER DIALECT-P NIbCAPITA
L LETTER CRYPTOGRAMMIC NIbSMALL LETTER CRYPTOGRAMMIC NIbCAPITAL LETTER OLD COPTIC OOUbSMALL LETTER O
LD COPTIC OOUbCAPITAL LETTER SAMPIbSMALL LETTER SAMPIbCAPITAL LETTER CROSSED SHEIbSMALL LETTER CROSS
ED SHEIbCAPITAL LETTER OLD COPTIC SHEIbSMALL LETTER OLD COPTIC SHEIbCAPITAL LETTER OLD COPTIC ESHbSM
ALL LETTER OLD COPTIC ESHbCAPITAL LETTER AKHMIMIC KHEIbSMALL LETTER AKHMIMIC KHEIbCAPITAL LETTER DIA
LECT-P HORIbSMALL LETTER DIALECT-P HORIbCAPITAL LETTER OLD COPTIC HORIbSMALL LETTER OLD COPTIC HORIb
CAPITAL LETTER OLD COPTIC HAbSMALL LETTER OLD COPTIC HAbCAPITAL LETTER L-SHAPED HAbSMALL LETTER L-SH
APED HAbCAPITAL LETTER OLD COPTIC HEIbSMALL LETTER OLD COPTIC HEIbCAPITAL LETTER OLD COPTIC HATbSMAL
L LETTER OLD COPTIC HATbCAPITAL LETTER OLD COPTIC GANGIAbSMALL LETTER OLD COPTIC GANGIAbCAPITAL LETT
ER OLD COPTIC DJAbSMALL LETTER OLD COPTIC DJAbCAPITAL LETTER OLD COPTIC SHIMAbSMALL LETTER OLD COPTI
C SHIMAbCAPITAL LETTER OLD NUBIAN SHIMAbSMALL LETTER OLD NUBIAN SHIMAbCAPITAL LETTER OLD NUBIAN NGIb
SMALL LETTER OLD NUBIAN NGIbCAPITAL LETTER OLD NUBIAN NYIbSMALL LETTER OLD NUBIAN NYIbCAPITAL LETTE
R OLD NUBIAN WAUbSMALL LETTER OLD NUBIAN WAUbSYMBOL KAIcMI ROcPI ROcSTAUROScTAU ROcKHI ROcSHIMA SIMA
bCAPITAL LETTER CRYPTOGRAMMIC SHEIbSMALL LETTER CRYPTOGRAMMIC SHEIbCAPITAL LETTER CRYPTOGRAMMIC GANG
IAbSMALL LETTER CRYPTOGRAMMIC GANGIAbCOMBINING NI ABOVEcSPIRITUS ASPERdLENISbCAPITAL LETTER BOHAIRI
C KHEIbSMALL LETTER BOHAIRIC KHEI=2CF9aCOPTIC OLD NUBIAN FULL STOPdDIRECT QUESTION MARKdINDIRECT QUE
STION MARKdVERSE DIVIDERbFRACTION ONE HALFbFULL STOPbMORPHOLOGICAL DIVIDERaGEORGIAN SMALL LETTER ANd
BANdGANdDONdENdVINdZENdTANdINdKANdLASdMANdNARdONdPARdZHARdRAEdSANdTARdUNdPHARdKHARdGHANdQARdSHINdCHI
NdCANdJILdCILdCHARdXANdJHANdHAEdHEdHIEdWEdHARdHOE=2D27aGEORGIAN SMALL LETTER YN=2D2DaGEORGIAN SMAL
L LETTER AEN=2D30aTIFINAGH LETTER YAcYABcYABHcYAGcYAGHHcBERBER ACADEMY YAJcYAJcYADcYADHcYADDcYADDHcY
EYcYAFcYAKcTUAREG YAKcYAKHHcYAHcBERBER ACADEMY YAHcTUAREG YAHcYAHHcYAAcYAKHcTUAREG YAKHcYAQcTUAREG Y
AQcYIcYAZHcAHAGGAR YAZHcTUAREG YAZHcYALcYAMcYANcTUAREG YAGNdYANGcYAPcYUcYARcYARRcYAGHcTUAREG YAGHcAY
ER YAGHcYAScYASScYASHcYATcYATHcYACHcYATTcYAVcYAWcYAYcYAZcTAWELLEMET YAZcYAZZcYEcYO=2D6FaTIFINAGH MOD
IFIER LETTER LABIALIZATION MARKbSEPARATOR MARK=2D7FaTIFINAGH CONSONANT JOINERaETHIOPIC SYLLABLE LOAc
MOAcROAcSOAcSHOAcBOAcTOAcCOAcNOAcNYOAcGLOTTAL OAcZOAcDOAcDDOAcJOAcTHOAcCHOAcPHOAcPOAcGGWAcGGWIcGGWEE
cGGWE=2DA0aETHIOPIC SYLLABLE SSAcSSUcSSIcSSAAcSSEEcSSEcSSO=2DA8aETHIOPIC SYLLABLE CCAcCCUcCCIcCCAAcC
CEEcCCEcCCO=2DB0aETHIOPIC SYLLABLE ZZAcZZUcZZIcZZAAcZZEEcZZEcZZO=2DB8aETHIOPIC SYLLABLE CCHAcCCHUcCC
HIcCCHAAcCCHEEcCCHEcCCHO=2DC0aETHIOPIC SYLLABLE QYAcQYUcQYIcQYAAcQYEEcQYEcQYO=2DC8aETHIOPIC SYLLABL
E KYAcKYUcKYIcKYAAcKYEEcKYEcKYO=2DD0aETHIOPIC SYLLABLE XYAcXYUcXYIcXYAAcXYEEcXYEcXYO=2DD8aETHIOPIC S
YLLABLE GYAcGYUcGYIcGYAAcGYEEcGYEcGYO=2DE0aCOMBINING CYRILLIC LETTER BEdVEdGHEdDEdZHEdZEdKAdELdEMdEN
dOdPEdERdESdTEdHAdTSEdCHEdSHAdSHCHAdFITAdES-TEdAdIEdDJERVdMONOGRAPH UKdYATdYUdIOTIFIED AdLITTLE YUSd
BIG YUSdIOTIFIED BIG YUSaRIGHT ANGLE SUBSTITUTION MARKERcDOTTED SUBSTITUTION MARKERaLEFT SUBSTITUTIO
N BRACKETaRIGHT SUBSTITUTION BRACKETaLEFT DOTTED SUBSTITUTION BRACKETaRIGHT DOTTED SUBSTITUTION BRAC
KETaRAISED INTERPOLATION MARKERbDOTTED INTERPOLATION MARKERaDOTTED TRANSPOSITION MARKERaLEFT TRANSPO
SITION BRACKETaRIGHT TRANSPOSITION BRACKETaRAISED SQUAREaLEFT RAISED OMISSION BRACKETaRIGHT RAISED O
MISSION BRACKETaEDITORIAL CORONISaPARAGRAPHOSaFORKED PARAGRAPHOSaREVERSED FORKED PARAGRAPHOSaHYPODIA
STOLEaDOTTED OBELOSaDOWNWARDS ANCORAaUPWARDS ANCORAaDOTTED RIGHT-POINTING ANGLEaDOUBLE OBLIQUE HYPHE
NaINVERTED INTERROBANGaPALM BRANCHaHYPHEN WITH DIAERESISaTILDE WITH RING ABOVEaLEFT LOW PARAPHRASE B
RACKETaRIGHT LOW PARAPHRASE BRACKETaTILDE WITH DOT ABOVEdBELOWaLEFT VERTICAL BAR WITH QUILLaRIGHT VE
RTICAL BAR WITH QUILLaTOP LEFT HALF BRACKETbRIGHT HALF BRACKETaBOTTOM LEFT HALF BRACKETbRIGHT HALF B
RACKETaLEFT SIDEWAYS U BRACKETaRIGHT SIDEWAYS U BRACKETaLEFT DOUBLE PARENTHESISaRIGHT DOUBLE PARENTH
ESISaTWO DOTS OVER ONE DOT PUNCTUATIONaONE DOT OVER TWO DOTS PUNCTUATIONaSQUARED FOUR DOT PUNCTUATIO
NaFIVE DOT MARKaREVERSED QUESTION MARKaVERTICAL TILDEaRING POINTaWORD SEPARATOR MIDDLE DOTaTURNED CO
MMAaRAISED DOTbCOMMAaTURNED SEMICOLONaDAGGER WITH LEFT GUARDcRIGHT GUARDaTURNED DAGGERaTOP HALF SECT
ION SIGNaTWO-EM DASHaTHREE-EM DASHaSTENOGRAPHIC FULL STOPaVERTICAL SIX DOTSaWIGGLY VERTICAL LINEaCAP
ITULUMaDOUBLE HYPHENaREVERSED COMMAaDOUBLE LOW-REVERSED-9 QUOTATION MARKaDASH WITH LEFT UPTURNaDOUBL
E SUSPENSION MARKaINVERTED LOW KAVYKAcKAVYKA WITH KAVYKA ABOVEaLOW KAVYKAbKAVYKA WITH DOTaDOUBLE STA
CKED COMMAaDOTTED SOLIDUSaTRIPLE DAGGERaMEDIEVAL COMMAaPARAGRAPHUS MARKaPUNCTUS ELEVATUS MARKaCORNIS
H VERSE DIVIDERaCROSS PATTY WITH RIGHT CROSSBARdLEFT CROSSBARaTIRONIAN SIGN CAPITAL ETaMEDIEVAL EXCL
AMATION MARKbQUESTION MARKaLEFT SQUARE BRACKET WITH STROKEaRIGHT SQUARE BRACKET WITH STROKEaLEFT SQU
ARE BRACKET WITH DOUBLE STROKEaRIGHT SQUARE BRACKET WITH DOUBLE STROKEaTOP HALF LEFT PARENTHESIScRIG
HT PARENTHESISaBOTTOM HALF LEFT PARENTHESIScRIGHT PARENTHESISaOBLIQUE HYPHEN=2E80aCJK RADICAL REPEAT
cCLIFFcSECOND ONEdTWOdTHREEcPERSONcBOXcTABLEcKNIFE ONEdTWOcDIVINATIONcSEALcSMALL ONEdTWOcLAME ONEdTW
OdTHREEdFOURcSNAKEcTHREADcSNOUT ONEdTWOcHEART ONEdTWOcHANDcRAP=2E9BaCJK RADICAL CHOKEcSUNcMOONcDEATH
cMOTHERcCIVILIANcWATER ONEdTWOcFIREcPAW ONEdTWOcSIMPLIFIED HALF TREE TRUNKcCOWcDOGcJADEcBOLT OF CLOT
HcEYEcSPIRIT ONEdTWOcBAMBOOcSILKcC-SIMPLIFIED SILKcNET ONEdTWOdTHREEdFOURcMESHcSHEEPcRAMcEWEcOLDcBRU
SH ONEdTWOcMEATcMORTARcGRASS ONEdTWOdTHREEcTIGERcCLOTHEScWEST ONEdTWOcC-SIMPLIFIED SEEcSIMPLIFIED HO
RNcHORNcC-SIMPLIFIED SPEECHeSHELLcFOOTcC-SIMPLIFIED CARTcSIMPLIFIED WALKcWALK ONEdTWOcCITYcC-SIMPLIF
IED GOLDcLONG ONEdTWOcC-SIMPLIFIED LONGeGATEcMOUND ONEdTWOcRAINcBLUEcC-SIMPLIFIED TANNED LEATHEReLEA
FeWINDeFLYcEAT ONEdTWOdTHREEcC-SIMPLIFIED EATcHEADcC-SIMPLIFIED HORSEcBONEcGHOSTcC-SIMPLIFIED FISHeB
IRDeSALTcSIMPLIFIED WHEATdYELLOWcC-SIMPLIFIED FROGcJ-SIMPLIFIED EVENcC-SIMPLIFIED EVENcJ-SIMPLIFIE
D TOOTHcC-SIMPLIFIED TOOTHcJ-SIMPLIFIED DRAGONcC-SIMPLIFIED DRAGONcTURTLEcJ-SIMPLIFIED TURTLEcC-SIMP
LIFIED TURTLE=2F00aKANGXI RADICAL ONEcLINEcDOTcSLASHcSECONDcHOOKcTWOcLIDcMANcLEGScENTERcEIGHTcDOWN B
OXcCOVERcICEcTABLEcOPEN BOXcKNIFEcPOWERcWRAPcSPOONcRIGHT OPEN BOXcHIDING ENCLOSUREcTENcDIVINATIONcSE
ALcCLIFFcPRIVATEcAGAINcMOUTHcENCLOSUREcEARTHcSCHOLARcGOcGO SLOWLYcEVENINGcBIGcWOMANcCHILDcROOFcINCHc
SMALLcLAMEcCORPSEcSPROUTcMOUNTAINcRIVERcWORKcONESELFcTURBANcDRYcSHORT THREADcDOTTED CLIFFcLONG STRID
EcTWO HANDScSHOOTcBOWcSNOUTcBRISTLEcSTEPcHEARTcHALBERDcDOORcHANDcBRANCHcRAPcSCRIPTcDIPPERcAXEcSQUARE
cNOTcSUNcSAYcMOONcTREEcLACKcSTOPcDEATHcWEAPONcDO NOTcCOMPAREcFURcCLANcSTEAMcWATERcFIREcCLAWcFATHERcD
OUBLE XcHALF TREE TRUNKcSLICEcFANGcCOWcDOGcPROFOUNDcJADEcMELONcTILEcSWEETcLIFEcUSEcFIELDcBOLT OF CLO
THcSICKNESScDOTTED TENTcWHITEcSKINcDISHcEYEcSPEARcARROWcSTONEcSPIRITcTRACKcGRAINcCAVEcSTANDcBAMBOOcR
ICEcSILKcJARcNETcSHEEPcFEATHERcOLDcANDcPLOWcEARcBRUSHcMEATcMINISTERcSELFcARRIVEcMORTARcTONGUEcOPPOSE
cBOATcSTOPPINGcCOLORcGRASScTIGERcINSECTcBLOODcWALK ENCLOSUREcCLOTHEScWESTcSEEcHORNcSPEECHcVALLEYcBEA
NcPIGcBADGERcSHELLcREDcRUNcFOOTcBODYcCARTcBITTERcMORNINGcWALKcCITYcWINEcDISTINGUISHcVILLAGEcGOLDcLON
GcGATEcMOUNDcSLAVEcSHORT TAILED BIRDcRAINcBLUEcWRONGcFACEcLEATHERcTANNED LEATHERcLEEKcSOUNDcLEAFcWIN
DcFLYcEATcHEADcFRAGRANTcHORSEcBONEcTALLcHAIRcFIGHTcSACRIFICIAL WINEcCAULDRONcGHOSTcFISHcBIRDcSALTcDE
ERcWHEATcHEMPcYELLOWcMILLETcBLACKcEMBROIDERYcFROGcTRIPODcDRUMcRATcNOSEcEVENcTOOTHcDRAGONcTURTLEcFLUT
E=2FF0aIDEOGRAPHIC DESCRIPTION CHARACTER LEFT TO RIGHTdABOVE TO BELOWdLEFT TO MIDDLE AND RIGHTdABOV
E TO MIDDLE AND BELOWdFULL SURROUNDdSURROUND FROM ABOVEfBELOWfLEFTfUPPER LEFTgRIGHTfLOWER LEFTdOVERL
AID=3000aIDEOGRAPHIC SPACEbCOMMAbFULL STOPaDITTO MARKaJAPANESE INDUSTRIAL STANDARD SYMBOLaIDEOGRAPHI
C ITERATION MARKbCLOSING MARKbNUMBER ZEROaLEFT ANGLE BRACKETaRIGHT ANGLE BRACKETaLEFT DOUBLE ANGLE B
RACKETaRIGHT DOUBLE ANGLE BRACKETaLEFT CORNER BRACKETaRIGHT CORNER BRACKETaLEFT WHITE CORNER BRACKET
aRIGHT WHITE CORNER BRACKETaLEFT BLACK LENTICULAR BRACKETaRIGHT BLACK LENTICULAR BRACKETaPOSTAL MARK
aGETA MARKaLEFT TORTOISE SHELL BRACKETaRIGHT TORTOISE SHELL BRACKETaLEFT WHITE LENTICULAR BRACKETaRI
GHT WHITE LENTICULAR BRACKETaLEFT WHITE TORTOISE SHELL BRACKETaRIGHT WHITE TORTOISE SHELL BRACKETaLE
FT WHITE SQUARE BRACKETaRIGHT WHITE SQUARE BRACKETaWAVE DASHaREVERSED DOUBLE PRIME QUOTATION MARKaDO
UBLE PRIME QUOTATION MARKaLOW DOUBLE PRIME QUOTATION MARKaPOSTAL MARK FACEaHANGZHOU NUMERAL ONEcTWOc
THREEcFOURcFIVEcSIXcSEVENcEIGHTcNINEaIDEOGRAPHIC LEVEL TONE MARKbRISING TONE MARKbDEPARTING TONE MAR
KbENTERING TONE MARKaHANGUL SINGLE DOT TONE MARKbDOUBLE DOT TONE MARKaWAVY DASHaVERTICAL KANA REPEA
T MARKdWITH VOICED SOUND MARKdMARK UPPER HALFdWITH VOICED SOUND MARK UPPER HALFdMARK LOWER HALFaCIRC
LED POSTAL MARKaIDEOGRAPHIC TELEGRAPH LINE FEED SEPARATOR SYMBOLaHANGZHOU NUMERAL TENcTWENTYcTHIRTYa
VERTICAL IDEOGRAPHIC ITERATION MARKaMASU MARKaPART ALTERNATION MARKaIDEOGRAPHIC VARIATION INDICATORb
HALF FILL SPACE=3041aHIRAGANA LETTER SMALL AcAcSMALL IcIcSMALL UcUcSMALL EcEcSMALL OcOcKAcGAcKIcGIcK
UcGUcKEcGEcKOcGOcSAcZAcSIcZIcSUcZUcSEcZEcSOcZOcTAcDAcTIcDIcSMALL TUcTUcDUcTEcDEcTOcDOcNAcNIcNUcNEcNO
cHAcBAcPAcHIcBIcPIcHUcBUcPUcHEcBEcPEcHOcBOcPOcMAcMIcMUcMEcMOcSMALL YAcYAcSMALL YUcYUcSMALL YOcYOcRAc
RIcRUcREcROcSMALL WAcWAcWIcWEcWOcNcVUcSMALL KAdKE=3099aCOMBINING KATAKANA-HIRAGANA VOICED SOUND MARK
dSEMI-VOICED SOUND MARKaKATAKANA-HIRAGANA VOICED SOUND MARKcSEMI-VOICED SOUND MARKaHIRAGANA ITERATIO
N MARKbVOICED ITERATION MARKbDIGRAPH YORIaKATAKANA-HIRAGANA DOUBLE HYPHENaKATAKANA LETTER SMALL AcAc
SMALL IcIcSMALL UcUcSMALL EcEcSMALL OcOcKAcGAcKIcGIcKUcGUcKEcGEcKOcGOcSAcZAcSIcZIcSUcZUcSEcZEcSOcZOc
TAcDAcTIcDIcSMALL TUcTUcDUcTEcDEcTOcDOcNAcNIcNUcNEcNOcHAcBAcPAcHIcBIcPIcHUcBUcPUcHEcBEcPEcHOcBOcPOcM
AcMIcMUcMEcMOcSMALL YAcYAcSMALL YUcYUcSMALL YOcYOcRAcRIcRUcREcROcSMALL WAcWAcWIcWEcWOcNcVUcSMALL KAd
KEcVAcVIcVEcVObMIDDLE DOTaKATAKANA-HIRAGANA PROLONGED SOUND MARKaKATAKANA ITERATION MARKbVOICED ITER
ATION MARKbDIGRAPH KOTO=3105aBOPOMOFO LETTER BcPcMcFcDcTcNcLcGcKcHcJcQcXcZHcCHcSHcRcZcCcScAcOcEcEHcA
IcEIcAUcOUcANcENcANGcENGcERcIcUcIUcVcNGcGNcIHcO WITH DOT ABOVEcNN=3131aHANGUL LETTER KIYEOKcSSANGKIY
EOKcKIYEOK-SIOScNIEUNcNIEUN-CIEUCdHIEUHcTIKEUTcSSANGTIKEUTcRIEULcRIEUL-KIYEOKdMIEUMdPIEUPdSIOSdTHIEU
THdPHIEUPHdHIEUHcMIEUMcPIEUPcSSANGPIEUPcPIEUP-SIOScSIOScSSANGSIOScIEUNGcCIEUCcSSANGCIEUCcCHIEUCHcKHI
EUKHcTHIEUTHcPHIEUPHcHIEUHcAcAEcYAcYAEcEOcEcYEOcYEcOcWAcWAEcOEcYOcUcWEOcWEcWIcYUcEUcYIcIbFILLERbLETT
ER SSANGNIEUNcNIEUN-TIKEUTdSIOSdPANSIOScRIEUL-KIYEOK-SIOSdTIKEUTdPIEUP-SIOSdPANSIOSdYEORINHIEUHcMIEU
M-PIEUPdSIOSdPANSIOScKAPYEOUNMIEUMcPIEUP-KIYEOKdTIKEUTdSIOS-KIYEOKeTIKEUTdCIEUCdTHIEUTHcKAPYEOUNPIEU
PcKAPYEOUNSSANGPIEUPcSIOS-KIYEOKdNIEUNdTIKEUTdPIEUPdCIEUCcPANSIOScSSANGIEUNGcYESIEUNGcYESIEUNG-SIOSd
PANSIOScKAPYEOUNPHIEUPHcSSANGHIEUHcYEORINHIEUHcYO-YAdYAEdIcYU-YEOdYEdIcARAEAcARAEAE=3190aIDEOGRAPHI
C ANNOTATION LINKING MARKcREVERSE MARKcONE MARKcTWO MARKcTHREE MARKcFOUR MARKcTOP MARKcMIDDLE MARKcB
OTTOM MARKcFIRST MARKcSECOND MARKcTHIRD MARKcFOURTH MARKcHEAVEN MARKcEARTH MARKcMAN MARKaBOPOMOFO LE
TTER BUcZIcJIcGUcEEcENNcOOcONNcIRcANNcINNcUNNcIMcNGGcAINNcAUNNcAMcOMcONGcINNNbFINAL LETTER PdTdKdHbL
ETTER GHcLHcZYbFINAL LETTER GbLETTER GWcKWcOEcAHaCJK STROKE TcWGcXGcBXGcSWcHZZcHZGcHPcHZWGcSZWGcHZTc
HZZPcHPWGcHZWcHZZZcNcHcScPcSPcDcHZcHGcSZcSWZcSTcSGcPDcPZcTNcSZZcSWGcHXWGcHZZZGcPGcQ=31F0aKATAKANA LE
TTER SMALL KUdSIdSUdTOdNUdHAdHIdHUdHEdHOdMUdRAdRIdRUdREdROaPARENTHESIZED HANGUL KIYEOKcNIEUNcTIKEUTc
RIEULcMIEUMcPIEUPcSIOScIEUNGcCIEUCcCHIEUCHcKHIEUKHcTHIEUTHcPHIEUPHcHIEUHcKIYEOK AcNIEUN AcTIKEUT AcR
IEUL AcMIEUM AcPIEUP AcSIOS AcIEUNG AcCIEUC AcCHIEUCH AcKHIEUKH AcTHIEUTH AcPHIEUPH AcHIEUH AcCIEU
C UbKOREAN CHARACTER OJEONdO HU=3220aPARENTHESIZED IDEOGRAPH ONEcTWOcTHREEcFOURcFIVEcSIXcSEVENcEIGHT
cNINEcTENcMOONcFIREcWATERcWOODcMETALcEARTHcSUNcSTOCKcHAVEcSOCIETYcNAMEcSPECIALcFINANCIALcCONGRATULAT
IONcLABORcREPRESENTcCALLcSTUDYcSUPERVISEcENTERPRISEcRESOURCEcALLIANCEcFESTIVALcRESTcSELFcREACHaCIRCL
ED IDEOGRAPH QUESTIONcKINDERGARTENcSCHOOLcKOTObNUMBER TEN ON BLACK SQUAREcTWENTY ON BLACK SQUAREcTHI
RTY ON BLACK SQUAREcFORTY ON BLACK SQUAREcFIFTY ON BLACK SQUAREcSIXTY ON BLACK SQUAREcSEVENTY ON BLA
CK SQUAREcEIGHTY ON BLACK SQUAREaPARTNERSHIP SIGNaCIRCLED NUMBER TWENTY ONEdTWOdTHREEdFOURdFIVEdSIXd
SEVENdEIGHTdNINEcTHIRTYcTHIRTY ONEdTWOdTHREEdFOURdFIVEbHANGUL KIYEOKcNIEUNcTIKEUTcRIEULcMIEUMcPIEUPc
SIOScIEUNGcCIEUCcCHIEUCHcKHIEUKHcTHIEUTHcPHIEUPHcHIEUHcKIYEOK AcNIEUN AcTIKEUT AcRIEUL AcMIEUM AcPIE
UP AcSIOS AcIEUNG AcCIEUC AcCHIEUCH AcKHIEUKH AcTHIEUTH AcPHIEUPH AcHIEUH AbKOREAN CHARACTER CHAMKOd
JUEUIbHANGUL IEUNG UaKOREAN STANDARD SYMBOLaCIRCLED IDEOGRAPH ONEcTWOcTHREEcFOURcFIVEcSIXcSEVENcEIGH
TcNINEcTENcMOONcFIREcWATERcWOODcMETALcEARTHcSUNcSTOCKcHAVEcSOCIETYcNAMEcSPECIALcFINANCIALcCONGRATULA
TIONcLABORcSECRETcMALEcFEMALEcSUITABLEcEXCELLENTcPRINTcATTENTIONcITEMcRESTcCOPYcCORRECTcHIGHcCENTREc
LOWcLEFTcRIGHTcMEDICINEcRELIGIONcSTUDYcSUPERVISEcENTERPRISEcRESOURCEcALLIANCEcNIGHTbNUMBER THIRTY SI
XdSEVENdEIGHTdNINEcFORTYcFORTY ONEdTWOdTHREEdFOURdFIVEdSIXdSEVENdEIGHTdNINEcFIFTYaIDEOGRAPHIC TELEGR
APH SYMBOL FOR JANUARYeFEBRUARYeMARCHeAPRILeMAYeJUNEeJULYeAUGUSTeSEPTEMBEReOCTOBEReNOVEMBEReDECEMBER
aSQUARE HGbERGbEVaLIMITED LIABILITY SIGNaCIRCLED KATAKANA AcIcUcEcOcKAcKIcKUcKEcKOcSAcSIcSUcSEcSOcTA
cTIcTUcTEcTOcNAcNIcNUcNEcNOcHAcHIcHUcHEcHOcMAcMIcMUcMEcMOcYAcYUcYOcRAcRIcRUcREcROcWAcWIcWEcWOaSQUAR
E ERA NAME REIWAbAPAATObARUHUAbANPEAbAARUbININGUbINTIbUONbESUKUUDObEEKAAbONSUbOOMUbKAIRIbKARATTObKAR
ORIIbGARONbGANMAbGIGAbGINIIbKYURIIbGIRUDAAbKIRObKIROGURAMUbKIROMEETORUbKIROWATTObGURAMUbGURAMUTONbKU
RUZEIRObKUROONEbKEESUbKORUNAbKOOPObSAIKURUbSANTIIMUbSIRINGUbSENTIbSENTObDAASUbDESIbDORUbTONbNANObNOT
TObHAITUbPAASENTObPAATUbBAARERUbPIASUTORUbPIKURUbPIKObBIRUbHUARADDObHUIITObBUSSYERUbHURANbHEKUTAARUb
PESObPENIHIbHERUTUbPENSUbPEEZIbBEETAbPOINTObBORUTObHONbPONDObHOORUbHOONbMAIKURObMAIRUbMAHHAbMARUKUbM
ANSYONbMIKURONbMIRIbMIRIBAARUbMEGAbMEGATONbMEETORUbYAADObYAARUbYUANbRITTORUbRIRAbRUPIIbRUUBURUbREMUb
RENTOGENbWATTOaIDEOGRAPHIC TELEGRAPH SYMBOL FOR HOUR ZEROfONEfTWOfTHREEfFOURfFIVEfSIXfSEVENfEIGHTfNI
NEfTENfELEVENfTWELVEfTHIRTEENfFOURTEENfFIFTEENfSIXTEENfSEVENTEENfEIGHTEENfNINETEENfTWENTYfTWENTY-ONE
gTWOgTHREEgFOURaSQUARE HPAbDAbAUbBARbOVbPCbDMbDM SQUAREDcCUBEDbIUbERA NAME HEISEIdSYOUWAdTAISYOUdMEI
ZIbCORPORATIONbPA AMPSbNAbMU AbMAbKAbKBbMBbGBbCALbKCALbPFbNFbMU FcGbMGbKGbHZbKHZbMHZbGHZbTHZbMU LbML
bDLbKLbFMbNMbMU MbMMbCMbKMbMM SQUAREDbCM SQUAREDbM SQUAREDbKM SQUAREDbMM CUBEDbCM CUBEDbM CUBEDbKM C
UBEDbM OVER SdS SQUAREDbPAbKPAbMPAbGPAbRADbRAD OVER SdS SQUAREDbPSbNSbMU SbMSbPVbNVbMU VbMVbKVbMV ME
GAbPWbNWbMU WbMWbKWbMW MEGAbK OHMbM OHMbAMbBQbCCbCDbC OVER KGbCObDBbGYbHAbHPbINbKKbKM CAPITALbKTbLMb
LNbLOGbLXbMB SMALLbMILbMOLbPHbPMbPPMbPRbSRbSVbWBbV OVER MbA OVER MaIDEOGRAPHIC TELEGRAPH SYMBOL FO
R DAY ONEfTWOfTHREEfFOURfFIVEfSIXfSEVENfEIGHTfNINEfTENfELEVENfTWELVEfTHIRTEENfFOURTEENfFIFTEENfSIXTE
ENfSEVENTEENfEIGHTEENfNINETEENfTWENTYfTWENTY-ONEgTWOgTHREEgFOURgFIVEgSIXgSEVENgEIGHTgNINEfTHIRTYfTHI
RTY-ONEaSQUARE GAL=4DC0aHEXAGRAM FOR THE CREATIVE HEAVENdRECEPTIVE EARTHcDIFFICULTY AT THE BEGINNING
cYOUTHFUL FOLLYcWAITINGcCONFLICTcTHE ARMYcHOLDING TOGETHERcSMALL TAMINGcTREADINGcPEACEcSTANDSTILLcFE
LLOWSHIPcGREAT POSSESSIONcMODESTYcENTHUSIASMcFOLLOWINGcWORK ON THE DECAYEDcAPPROACHcCONTEMPLATIONcBI
TING THROUGHcGRACEcSPLITTING APARTcRETURNcINNOCENCEcGREAT TAMINGcMOUTH CORNERScGREAT PREPONDERANCEcT
HE ABYSMAL WATERdCLINGING FIREcINFLUENCEcDURATIONcRETREATcGREAT POWERcPROGRESScDARKENING OF THE LIGH
TcTHE FAMILYcOPPOSITIONcOBSTRUCTIONcDELIVERANCEcDECREASEcINCREASEcBREAKTHROUGHcCOMING TO MEETcGATHER
ING TOGETHERcPUSHING UPWARDcOPPRESSIONcTHE WELLcREVOLUTIONcTHE CAULDRONdAROUSING THUNDERdKEEPING STI
LL MOUNTAINcDEVELOPMENTcTHE MARRYING MAIDENcABUNDANCEcTHE WANDERERdGENTLE WINDdJOYOUS LAKEcDISPERSIO
NcLIMITATIONcINNER TRUTHcSMALL PREPONDERANCEcAFTER COMPLETIONcBEFORE COMPLETION=A000aYI SYLLABLE ITc
IXcIcIPcIETcIEXcIEcIEPcATcAXcAcAPcUOXcUOcUOPcOTcOXcOcOPcEXcEcWUcBITcBIXcBIcBIPcBIETcBIEXcBIEcBIEPcBA
TcBAXcBAcBAPcBUOXcBUOcBUOPcBOTcBOXcBOcBOPcBEXcBEcBEPcBUTcBUXcBUcBUPcBURXcBURcBYTcBYXcBYcBYPcBYRXcBYR
cPITcPIXcPIcPIPcPIEXcPIEcPIEPcPATcPAXcPAcPAPcPUOXcPUOcPUOPcPOTcPOXcPOcPOPcPUTcPUXcPUcPUPcPURXcPURcPY
TcPYXcPYcPYPcPYRXcPYRcBBITcBBIXcBBIcBBIPcBBIETcBBIEXcBBIEcBBIEPcBBATcBBAXcBBAcBBAPcBBUOXcBBUOcBBUOPc
BBOTcBBOXcBBOcBBOPcBBEXcBBEcBBEPcBBUTcBBUXcBBUcBBUPcBBURXcBBURcBBYTcBBYXcBBYcBBYPcNBITcNBIXcNBIcNBIP
cNBIEXcNBIEcNBIEPcNBATcNBAXcNBAcNBAPcNBOTcNBOXcNBOcNBOPcNBUTcNBUXcNBUcNBUPcNBURXcNBURcNBYTcNBYXcNBYc
NBYPcNBYRXcNBYRcHMITcHMIXcHMIcHMIPcHMIEXcHMIEcHMIEPcHMATcHMAXcHMAcHMAPcHMUOXcHMUOcHMUOPcHMOTcHMOXcHM
OcHMOPcHMUTcHMUXcHMUcHMUPcHMURXcHMURcHMYXcHMYcHMYPcHMYRXcHMYRcMITcMIXcMIcMIPcMIEXcMIEcMIEPcMATcMAXcM
AcMAPcMUOTcMUOXcMUOcMUOPcMOTcMOXcMOcMOPcMEXcMEcMUTcMUXcMUcMUPcMURXcMURcMYTcMYXcMYcMYPcFITcFIXcFIcFIP
cFATcFAXcFAcFAPcFOXcFOcFOPcFUTcFUXcFUcFUPcFURXcFURcFYTcFYXcFYcFYPcVITcVIXcVIcVIPcVIETcVIEXcVIEcVIEPc
VATcVAXcVAcVAPcVOTcVOXcVOcVOPcVEXcVEPcVUTcVUXcVUcVUPcVURXcVURcVYTcVYXcVYcVYPcVYRXcVYRcDITcDIXcDIcDIP
cDIEXcDIEcDIEPcDATcDAXcDAcDAPcDUOXcDUOcDOTcDOXcDOcDOPcDEXcDEcDEPcDUTcDUXcDUcDUPcDURXcDURcTITcTIXcTIc
TIPcTIEXcTIEcTIEPcTATcTAXcTAcTAPcTUOTcTUOXcTUOcTUOPcTOTcTOXcTOcTOPcTEXcTEcTEPcTUTcTUXcTUcTUPcTURXcTU
RcDDITcDDIXcDDIcDDIPcDDIEXcDDIEcDDIEPcDDATcDDAXcDDAcDDAPcDDUOXcDDUOcDDUOPcDDOTcDDOXcDDOcDDOPcDDEXcDD
EcDDEPcDDUTcDDUXcDDUcDDUPcDDURXcDDURcNDITcNDIXcNDIcNDIPcNDIEXcNDIEcNDATcNDAXcNDAcNDAPcNDOTcNDOXcNDOc
NDOPcNDEXcNDEcNDEPcNDUTcNDUXcNDUcNDUPcNDURXcNDURcHNITcHNIXcHNIcHNIPcHNIETcHNIEXcHNIEcHNIEPcHNATcHNAX
cHNAcHNAPcHNUOXcHNUOcHNOTcHNOXcHNOPcHNEXcHNEcHNEPcHNUTcNITcNIXcNIcNIPcNIEXcNIEcNIEPcNAXcNAcNAPcNUOXc
NUOcNUOPcNOTcNOXcNOcNOPcNEXcNEcNEPcNUTcNUXcNUcNUPcNURXcNURcHLITcHLIXcHLIcHLIPcHLIEXcHLIEcHLIEPcHLATc
HLAXcHLAcHLAPcHLUOXcHLUOcHLUOPcHLOXcHLOcHLOPcHLEXcHLEcHLEPcHLUTcHLUXcHLUcHLUPcHLURXcHLURcHLYTcHLYXcH
LYcHLYPcHLYRXcHLYRcLITcLIXcLIcLIPcLIETcLIEXcLIEcLIEPcLATcLAXcLAcLAPcLUOTcLUOXcLUOcLUOPcLOTcLOXcLOcLO
PcLEXcLEcLEPcLUTcLUXcLUcLUPcLURXcLURcLYTcLYXcLYcLYPcLYRXcLYRcGITcGIXcGIcGIPcGIETcGIEXcGIEcGIEPcGATcG
AXcGAcGAPcGUOTcGUOXcGUOcGUOPcGOTcGOXcGOcGOPcGETcGEXcGEcGEPcGUTcGUXcGUcGUPcGURXcGURcKITcKIXcKIcKIPcKI
EXcKIEcKIEPcKATcKAXcKAcKAPcKUOXcKUOcKUOPcKOTcKOXcKOcKOPcKETcKEXcKEcKEPcKUTcKUXcKUcKUPcKURXcKURcGGITc
GGIXcGGIcGGIEXcGGIEcGGIEPcGGATcGGAXcGGAcGGAPcGGUOTcGGUOXcGGUOcGGUOPcGGOTcGGOXcGGOcGGOPcGGETcGGEXcGGE
cGGEPcGGUTcGGUXcGGUcGGUPcGGURXcGGURcMGIEXcMGIEcMGATcMGAXcMGAcMGAPcMGUOXcMGUOcMGUOPcMGOTcMGOXcMGOcMGO
PcMGEXcMGEcMGEPcMGUTcMGUXcMGUcMGUPcMGURXcMGURcHXITcHXIXcHXIcHXIPcHXIETcHXIEXcHXIEcHXIEPcHXATcHXAXcHX
AcHXAPcHXUOTcHXUOXcHXUOcHXUOPcHXOTcHXOXcHXOcHXOPcHXEXcHXEcHXEPcNGIEXcNGIEcNGIEPcNGATcNGAXcNGAcNGAPcN
GUOTcNGUOXcNGUOcNGOTcNGOXcNGOcNGOPcNGEXcNGEcNGEPcHITcHIEXcHIEcHATcHAXcHAcHAPcHUOTcHUOXcHUOcHUOPcHOTc
HOXcHOcHOPcHEXcHEcHEPcWATcWAXcWAcWAPcWUOXcWUOcWUOPcWOXcWOcWOPcWEXcWEcWEPcZITcZIXcZIcZIPcZIEXcZIEcZIE
PcZATcZAXcZAcZAPcZUOXcZUOcZUOPcZOTcZOXcZOcZOPcZEXcZEcZEPcZUTcZUXcZUcZUPcZURXcZURcZYTcZYXcZYcZYPcZYRX
cZYRcCITcCIXcCIcCIPcCIETcCIEXcCIEcCIEPcCATcCAXcCAcCAPcCUOXcCUOcCUOPcCOTcCOXcCOcCOPcCEXcCEcCEPcCUTcCU
XcCUcCUPcCURXcCURcCYTcCYXcCYcCYPcCYRXcCYRcZZITcZZIXcZZIcZZIPcZZIETcZZIEXcZZIEcZZIEPcZZATcZZAXcZZAcZZ
APcZZOXcZZOcZZOPcZZEXcZZEcZZEPcZZUXcZZUcZZUPcZZURXcZZURcZZYTcZZYXcZZYcZZYPcZZYRXcZZYRcNZITcNZIXcNZIc
NZIPcNZIEXcNZIEcNZIEPcNZATcNZAXcNZAcNZAPcNZUOXcNZUOcNZOXcNZOPcNZEXcNZEcNZUXcNZUcNZUPcNZURXcNZURcNZYT
cNZYXcNZYcNZYPcNZYRXcNZYRcSITcSIXcSIcSIPcSIEXcSIEcSIEPcSATcSAXcSAcSAPcSUOXcSUOcSUOPcSOTcSOXcSOcSOPcS
EXcSEcSEPcSUTcSUXcSUcSUPcSURXcSURcSYTcSYXcSYcSYPcSYRXcSYRcSSITcSSIXcSSIcSSIPcSSIEXcSSIEcSSIEPcSSATcS
SAXcSSAcSSAPcSSOTcSSOXcSSOcSSOPcSSEXcSSEcSSEPcSSUTcSSUXcSSUcSSUPcSSYTcSSYXcSSYcSSYPcSSYRXcSSYRcZHATc
ZHAXcZHAcZHAPcZHUOXcZHUOcZHUOPcZHOTcZHOXcZHOcZHOPcZHETcZHEXcZHEcZHEPcZHUTcZHUXcZHUcZHUPcZHURXcZHURcZ
HYTcZHYXcZHYcZHYPcZHYRXcZHYRcCHATcCHAXcCHAcCHAPcCHUOTcCHUOXcCHUOcCHUOPcCHOTcCHOXcCHOcCHOPcCHETcCHEXc
CHEcCHEPcCHUXcCHUcCHUPcCHURXcCHURcCHYTcCHYXcCHYcCHYPcCHYRXcCHYRcRRAXcRRAcRRUOXcRRUOcRROTcRROXcRROcRR
OPcRRETcRREXcRREcRREPcRRUTcRRUXcRRUcRRUPcRRURXcRRURcRRYTcRRYXcRRYcRRYPcRRYRXcRRYRcNRATcNRAXcNRAcNRAP
cNROXcNROcNROPcNRETcNREXcNREcNREPcNRUTcNRUXcNRUcNRUPcNRURXcNRURcNRYTcNRYXcNRYcNRYPcNRYRXcNRYRcSHATcS
HAXcSHAcSHAPcSHUOXcSHUOcSHUOPcSHOTcSHOXcSHOcSHOPcSHETcSHEXcSHEcSHEPcSHUTcSHUXcSHUcSHUPcSHURXcSHURcSH
YTcSHYXcSHYcSHYPcSHYRXcSHYRcRATcRAXcRAcRAPcRUOXcRUOcRUOPcROTcROXcROcROPcREXcREcREPcRUTcRUXcRUcRUPcRU
RXcRURcRYTcRYXcRYcRYPcRYRXcRYRcJITcJIXcJIcJIPcJIETcJIEXcJIEcJIEPcJUOTcJUOXcJUOcJUOPcJOTcJOXcJOcJOPcJ
UTcJUXcJUcJUPcJURXcJURcJYTcJYXcJYcJYPcJYRXcJYRcQITcQIXcQIcQIPcQIETcQIEXcQIEcQIEPcQUOTcQUOXcQUOcQUOPc
QOTcQOXcQOcQOPcQUTcQUXcQUcQUPcQURXcQURcQYTcQYXcQYcQYPcQYRXcQYRcJJITcJJIXcJJIcJJIPcJJIETcJJIEXcJJIEcJ
JIEPcJJUOXcJJUOcJJUOPcJJOTcJJOXcJJOcJJOPcJJUTcJJUXcJJUcJJUPcJJURXcJJURcJJYTcJJYXcJJYcJJYPcNJITcNJIXc
NJIcNJIPcNJIETcNJIEXcNJIEcNJIEPcNJUOXcNJUOcNJOTcNJOXcNJOcNJOPcNJUXcNJUcNJUPcNJURXcNJURcNJYTcNJYXcNJY
cNJYPcNJYRXcNJYRcNYITcNYIXcNYIcNYIPcNYIETcNYIEXcNYIEcNYIEPcNYUOXcNYUOcNYUOPcNYOTcNYOXcNYOcNYOPcNYUTc
NYUXcNYUcNYUPcXITcXIXcXIcXIPcXIETcXIEXcXIEcXIEPcXUOXcXUOcXOTcXOXcXOcXOPcXYTcXYXcXYcXYPcXYRXcXYRcYITc
YIXcYIcYIPcYIETcYIEXcYIEcYIEPcYUOTcYUOXcYUOcYUOPcYOTcYOXcYOcYOPcYUTcYUXcYUcYUPcYURXcYURcYYTcYYXcYYcY
YPcYYRXcYYR=A490aYI RADICAL QOTcLIcKITcNYIPcCYPcSSIcGGOPcGEPcMIcHXITcLYRcBBUTcMOPcYOcPUTcHXUOcTATcGA
cZUPcCYTcDDURcBURcGGUOcNYOPcTUcOPcJJUTcZOTcPYTcHMOcYITcVURcSHYcVEPcZAcJOcNZUPcJJYcGOTcJJIEcWOcDUcSHU
RcLIEcCYcCUOPcCIPcHXOPcSHATcZURcSHOPcCHEcZZIETcNBIEcKE=A4D0aLISU LETTER BAcPAcPHAcDAcTAcTHAcGAcKAcKH
AcJAcCAcCHAcDZAcTSAcTSHAcMAcNAcLAcSAcZHAcZAcNGAcHAcXAcHHAcFAcWAcSHAcYAcGHAcAcAEcEcEUcIcOcUcUEcUHcOEc
TONE MYA TIdNA POdMYA CYAeBOeNAeJEUbPUNCTUATION COMMAcFULL STOPaVAI SYLLABLE EEcEENcHEEcWEEcWEENcPEE
cBHEEcBEEcMBEEcKPEEcMGBEEcGBEEcFEEcVEEcTEEcTHEEcDHEEcDHHEEcLEEcREEcDEEcNDEEcSEEcSHEEcZEEcZHEEcCEEcJE
EcNJEEcYEEcKEEcNGGEEcGEEcMEEcNEEcNYEEcIcINcHIcHINcWIcWINcPIcBHIcBIcMBIcKPIcMGBIcGBIcFIcVIcTIcTHIcDHI
cDHHIcLIcRIcDIcNDIcSIcSHIcZIcZHIcCIcJIcNJIcYIcKIcNGGIcGIcMIcNIcNYIcAcANcNGANcHAcHANcWAcWANcPAcBHAcBA
cMBAcKPAcKPANcMGBAcGBAcFAcVAcTAcTHAcDHAcDHHAcLAcRAcDAcNDAcSAcSHAcZAcZHAcCAcJAcNJAcYAcKAcKANcNGGAcGAc
MAcNAcNYAcOOcOONcHOOcWOOcWOONcPOOcBHOOcBOOcMBOOcKPOOcMGBOOcGBOOcFOOcVOOcTOOcTHOOcDHOOcDHHOOcLOOcROOc
DOOcNDOOcSOOcSHOOcZOOcZHOOcCOOcJOOcNJOOcYOOcKOOcNGGOOcGOOcMOOcNOOcNYOOcUcUNcHUcHUNcWUcWUNcPUcBHUcBUc
MBUcKPUcMGBUcGBUcFUcVUcTUcTHUcDHUcDHHUcLUcRUcDUcNDUcSUcSHUcZUcZHUcCUcJUcNJUcYUcKUcNGGUcGUcMUcNUcNYUc
OcONcNGONcHOcHONcWOcWONcPOcBHOcBOcMBOcKPOcMGBOcGBOcGBONcFOcVOcTOcTHOcDHOcDHHOcLOcROcDOcNDOcSOcSHOcZO
cZHOcCOcJOcNJOcYOcKOcNGGOcGOcMOcNOcNYOcEcENcNGENcHEcHENcWEcWENcPEcBHEcBEcMBEcKPEcKPENcMGBEcGBEcGBENc
FEcVEcTEcTHEcDHEcDHHEcLEcREcDEcNDEcSEcSHEcZEcZHEcCEcJEcNJEcYEcKEcNGGEcNGGENcGEcGENcMEcNEcNYEcNGcLENG
THENERbCOMMAbFULL STOPbQUESTION MARKbSYLLABLE NDOLE FAdKAdSOObSYMBOL FEENGcKEENGcTINGcNIIcBANGcFAAcT
AAcDANGcDOONGcKUNGcTONGcDO-OcJONGbDIGIT ZEROcONEcTWOcTHREEcFOURcFIVEcSIXcSEVENcEIGHTcNINEbSYLLABLE N
DOLE MAdDO=A640aCYRILLIC CAPITAL LETTER ZEMLYAbSMALL LETTER ZEMLYAbCAPITAL LETTER DZELObSMALL LETTE
R DZELObCAPITAL LETTER REVERSED DZEbSMALL LETTER REVERSED DZEbCAPITAL LETTER IOTAbSMALL LETTER IOTAb
CAPITAL LETTER DJERVbSMALL LETTER DJERVbCAPITAL LETTER MONOGRAPH UKbSMALL LETTER MONOGRAPH UKbCAPITA
L LETTER BROAD OMEGAbSMALL LETTER BROAD OMEGAbCAPITAL LETTER NEUTRAL YERbSMALL LETTER NEUTRAL YERbCA
PITAL LETTER YERU WITH BACK YERbSMALL LETTER YERU WITH BACK YERbCAPITAL LETTER IOTIFIED YATbSMALL LE
TTER IOTIFIED YATbCAPITAL LETTER REVERSED YUbSMALL LETTER REVERSED YUbCAPITAL LETTER IOTIFIED AbSMAL
L LETTER IOTIFIED AbCAPITAL LETTER CLOSED LITTLE YUSbSMALL LETTER CLOSED LITTLE YUSbCAPITAL LETTER B
LENDED YUSbSMALL LETTER BLENDED YUSbCAPITAL LETTER IOTIFIED CLOSED LITTLE YUSbSMALL LETTER IOTIFIE
D CLOSED LITTLE YUSbCAPITAL LETTER YNbSMALL LETTER YNbCAPITAL LETTER REVERSED TSEbSMALL LETTER REVER
SED TSEbCAPITAL LETTER SOFT DEbSMALL LETTER SOFT DEbCAPITAL LETTER SOFT ELbSMALL LETTER SOFT ELbCAPI
TAL LETTER SOFT EMbSMALL LETTER SOFT EMbCAPITAL LETTER MONOCULAR ObSMALL LETTER MONOCULAR ObCAPITA
L LETTER BINOCULAR ObSMALL LETTER BINOCULAR ObCAPITAL LETTER DOUBLE MONOCULAR ObSMALL LETTER DOUBL
E MONOCULAR ObLETTER MULTIOCULAR OaCOMBINING CYRILLIC VZMETcTEN MILLIONS SIGNcHUNDRED MILLIONS SIGNc
THOUSAND MILLIONS SIGNaSLAVONIC ASTERISKaCOMBINING CYRILLIC LETTER UKRAINIAN IEdIdYIdUdHARD SIGNdYER
UdSOFT SIGNdOMEGAcKAVYKAcPAYEROKaCYRILLIC KAVYKAbPAYEROKbCAPITAL LETTER DWEbSMALL LETTER DWEbCAPITA
L LETTER DZWEbSMALL LETTER DZWEbCAPITAL LETTER ZHWEbSMALL LETTER ZHWEbCAPITAL LETTER CCHEbSMALL LETT
ER CCHEbCAPITAL LETTER DZZEbSMALL LETTER DZZEbCAPITAL LETTER TE WITH MIDDLE HOOKbSMALL LETTER TE WIT
H MIDDLE HOOKbCAPITAL LETTER TWEbSMALL LETTER TWEbCAPITAL LETTER TSWEbSMALL LETTER TSWEbCAPITAL LETT
ER TSSEbSMALL LETTER TSSEbCAPITAL LETTER TCHEbSMALL LETTER TCHEbCAPITAL LETTER HWEbSMALL LETTER HWEb
CAPITAL LETTER SHWEbSMALL LETTER SHWEbCAPITAL LETTER DOUBLE ObSMALL LETTER DOUBLE ObCAPITAL LETTER C
ROSSED ObSMALL LETTER CROSSED OaMODIFIER LETTER CYRILLIC HARD SIGNdSOFT SIGNaCOMBINING CYRILLIC LETT
ER EFdIOTIFIED EaBAMUM LETTER AcKAcUcKUcEEcREEcTAEcOcNYIcIcLAcPAcRIIcRIEEcLEEEEcMEEEEcTAAcNDAAcNJAEM
cMcSUUcMUcSHIIcSIcSHEUXcSEUXcKYEEcKETcNUAEcNUcNJUAEcYOQcSHUcYUQcYAcNSHAcKEUXcPEUXcNJEEcNTEEcPUEcWUEc
PEEcFEEcRUcLUcMIcNIcREUXcRAEcKENcNGKWAENcNGGAcNGAcSHOcPUAEcFUcFOMcWAcNAcLIcPIcLOQcKOcMBENcRENcMENcMA
cTIcKIcMOcMBAAcTETcKPAcTENcNTUUcSAMBAcFAAMAEcKOVUUcKOGHOMbCOMBINING MARK KOQNDONdTUKWENTISbNJAEMLIbF
ULL STOPbCOLONbCOMMAbSEMICOLONbQUESTION MARK=A700aMODIFIER LETTER CHINESE TONE YIN PINGeYANG PINGeYI
N SHANGeYANG SHANGeYIN QUeYANG QUeYIN RUeYANG RUcEXTRA-HIGH DOTTED TONE BARcHIGH DOTTED TONE BARcMI
D DOTTED TONE BARcLOW DOTTED TONE BARcEXTRA-LOW DOTTED TONE BARdHIGH DOTTED LEFT-STEM TONE BARcHIG
H DOTTED LEFT-STEM TONE BARcMID DOTTED LEFT-STEM TONE BARcLOW DOTTED LEFT-STEM TONE BARcEXTRA-LOW DO
TTED LEFT-STEM TONE BARdHIGH LEFT-STEM TONE BARcHIGH LEFT-STEM TONE BARcMID LEFT-STEM TONE BARcLOW L
EFT-STEM TONE BARcEXTRA-LOW LEFT-STEM TONE BARcDOT VERTICAL BARdSLASHdHORIZONTAL BARcLOWER RIGHT COR
NER ANGLEcRAISED UP ARROWdDOWN ARROWdEXCLAMATION MARKdINVERTED EXCLAMATION MARKcLOW INVERTED EXCLAMA
TION MARKcSTRESS AND HIGH TONEeLOW TONEaLATIN CAPITAL LETTER EGYPTOLOGICAL ALEFbSMALL LETTER EGYPTOL
OGICAL ALEFbCAPITAL LETTER EGYPTOLOGICAL AINbSMALL LETTER EGYPTOLOGICAL AINbCAPITAL LETTER HENGbSMAL
L LETTER HENGbCAPITAL LETTER TZbSMALL LETTER TZbCAPITAL LETTER TRESILLObSMALL LETTER TRESILLObCAPITA
L LETTER CUATRILLObSMALL LETTER CUATRILLObCAPITAL LETTER CUATRILLO WITH COMMAbSMALL LETTER CUATRILL
O WITH COMMAbLETTER SMALL CAPITAL FeSbCAPITAL LETTER AAbSMALL LETTER AAbCAPITAL LETTER AObSMALL LETT
ER AObCAPITAL LETTER AUbSMALL LETTER AUbCAPITAL LETTER AVbSMALL LETTER AVbCAPITAL LETTER AV WITH HOR
IZONTAL BARbSMALL LETTER AV WITH HORIZONTAL BARbCAPITAL LETTER AYbSMALL LETTER AYbCAPITAL LETTER REV
ERSED C WITH DOTbSMALL LETTER REVERSED C WITH DOTbCAPITAL LETTER K WITH STROKEbSMALL LETTER K WITH S
TROKEbCAPITAL LETTER K WITH DIAGONAL STROKEbSMALL LETTER K WITH DIAGONAL STROKEbCAPITAL LETTER K WIT
H STROKE AND DIAGONAL STROKEbSMALL LETTER K WITH STROKE AND DIAGONAL STROKEbCAPITAL LETTER BROKEN Lb
SMALL LETTER BROKEN LbCAPITAL LETTER L WITH HIGH STROKEbSMALL LETTER L WITH HIGH STROKEbCAPITAL LETT
ER O WITH LONG STROKE OVERLAYbSMALL LETTER O WITH LONG STROKE OVERLAYbCAPITAL LETTER O WITH LOOPbSMA
LL LETTER O WITH LOOPbCAPITAL LETTER OObSMALL LETTER OObCAPITAL LETTER P WITH STROKE THROUGH DESCEND
ERbSMALL LETTER P WITH STROKE THROUGH DESCENDERbCAPITAL LETTER P WITH FLOURISHbSMALL LETTER P WITH F
LOURISHbCAPITAL LETTER P WITH SQUIRREL TAILbSMALL LETTER P WITH SQUIRREL TAILbCAPITAL LETTER Q WIT
H STROKE THROUGH DESCENDERbSMALL LETTER Q WITH STROKE THROUGH DESCENDERbCAPITAL LETTER Q WITH DIAGON
AL STROKEbSMALL LETTER Q WITH DIAGONAL STROKEbCAPITAL LETTER R ROTUNDAbSMALL LETTER R ROTUNDAbCAPITA
L LETTER RUM ROTUNDAbSMALL LETTER RUM ROTUNDAbCAPITAL LETTER V WITH DIAGONAL STROKEbSMALL LETTER V W
ITH DIAGONAL STROKEbCAPITAL LETTER VYbSMALL LETTER VYbCAPITAL LETTER VISIGOTHIC ZbSMALL LETTER VISIG
OTHIC ZbCAPITAL LETTER THORN WITH STROKEbSMALL LETTER THORN WITH STROKEbCAPITAL LETTER THORN WITH ST
ROKE THROUGH DESCENDERbSMALL LETTER THORN WITH STROKE THROUGH DESCENDERbCAPITAL LETTER VENDbSMALL LE
TTER VENDbCAPITAL LETTER ETbSMALL LETTER ETbCAPITAL LETTER ISbSMALL LETTER ISbCAPITAL LETTER CONbSMA
LL LETTER CONaMODIFIER LETTER USaLATIN SMALL LETTER DUMdLUMdMUMdNUMdRUMbLETTER SMALL CAPITAL RUMbSMA
LL LETTER TUMdUMbCAPITAL LETTER INSULAR DbSMALL LETTER INSULAR DbCAPITAL LETTER INSULAR FbSMALL LETT
ER INSULAR FbCAPITAL LETTER INSULAR GdTURNED INSULAR GbSMALL LETTER TURNED INSULAR GbCAPITAL LETTE
R TURNED LbSMALL LETTER TURNED LbCAPITAL LETTER INSULAR RbSMALL LETTER INSULAR RbCAPITAL LETTER INSU
LAR SbSMALL LETTER INSULAR SbCAPITAL LETTER INSULAR TbSMALL LETTER INSULAR TaMODIFIER LETTER LOW CIR
CUMFLEX ACCENTcCOLONcSHORT EQUALS SIGNaLATIN CAPITAL LETTER SALTILLObSMALL LETTER SALTILLObCAPITAL L
ETTER TURNED HbSMALL LETTER L WITH RETROFLEX HOOK AND BELTbLETTER SINOLOGICAL DOTbCAPITAL LETTER N W
ITH DESCENDERbSMALL LETTER N WITH DESCENDERbCAPITAL LETTER C WITH BARbSMALL LETTER C WITH BARfPALATA
L HOOKdH WITH PALATAL HOOKbCAPITAL LETTER B WITH FLOURISHbSMALL LETTER B WITH FLOURISHbCAPITAL LETTE
R F WITH STROKEbSMALL LETTER F WITH STROKEbCAPITAL LETTER VOLAPUK AEbSMALL LETTER VOLAPUK AEbCAPITA
L LETTER VOLAPUK OEbSMALL LETTER VOLAPUK OEbCAPITAL LETTER VOLAPUK UEbSMALL LETTER VOLAPUK UEbCAPITA
L LETTER G WITH OBLIQUE STROKEbSMALL LETTER G WITH OBLIQUE STROKEbCAPITAL LETTER K WITH OBLIQUE STRO
KEbSMALL LETTER K WITH OBLIQUE STROKEbCAPITAL LETTER N WITH OBLIQUE STROKEbSMALL LETTER N WITH OBLIQ
UE STROKEbCAPITAL LETTER R WITH OBLIQUE STROKEbSMALL LETTER R WITH OBLIQUE STROKEbCAPITAL LETTER S W
ITH OBLIQUE STROKEbSMALL LETTER S WITH OBLIQUE STROKEbCAPITAL LETTER H WITH HOOKdREVERSED OPEN EdSCR
IPT GdL WITH BELTdSMALL CAPITAL IbLETTER SMALL CAPITAL QbCAPITAL LETTER TURNED KeTdJ WITH CROSSED-TA
ILdCHIdBETAbSMALL LETTER BETAbCAPITAL LETTER OMEGAbSMALL LETTER OMEGAbCAPITAL LETTER U WITH STROKEbS
MALL LETTER U WITH STROKEbCAPITAL LETTER GLOTTAL AbSMALL LETTER GLOTTAL AbCAPITAL LETTER GLOTTAL IbS
MALL LETTER GLOTTAL IbCAPITAL LETTER GLOTTAL UbSMALL LETTER GLOTTAL UbCAPITAL LETTER OLD POLISH ObSM
ALL LETTER OLD POLISH ObCAPITAL LETTER ANGLICANA WbSMALL LETTER ANGLICANA WbCAPITAL LETTER C WITH PA
LATAL HOOKdS WITH HOOKdZ WITH PALATAL HOOKdD WITH SHORT STROKE OVERLAYbSMALL LETTER D WITH SHORT STR
OKE OVERLAYbCAPITAL LETTER S WITH SHORT STROKE OVERLAYbSMALL LETTER S WITH SHORT STROKE OVERLAY=A7D0
aLATIN CAPITAL LETTER CLOSED INSULAR GbSMALL LETTER CLOSED INSULAR G=A7D3aLATIN SMALL LETTER DOUBL
E THORN=A7D5aLATIN SMALL LETTER DOUBLE WYNNbCAPITAL LETTER MIDDLE SCOTS SbSMALL LETTER MIDDLE SCOT
S SbCAPITAL LETTER SIGMOID SbSMALL LETTER SIGMOID S=A7F2aMODIFIER LETTER CAPITAL CdFdQaLATIN CAPITA
L LETTER REVERSED HALF HbSMALL LETTER REVERSED HALF HbEPIGRAPHIC LETTER SIDEWAYS IaMODIFIER LETTER C
APITAL H WITH STROKEcSMALL LIGATURE OEaLATIN LETTER SMALL CAPITAL TURNED MbEPIGRAPHIC LETTER REVERSE
D FePdINVERTED MdI LONGAdARCHAIC MaSYLOTI NAGRI LETTER AdIcSIGN DVISVARAcLETTER UdEdOcSIGN HASANTAcL
ETTER KOdKHOdGOdGHOcSIGN ANUSVARAcLETTER COdCHOdJOdJHOdTTOdTTHOdDDOdDDHOdTOdTHOdDOdDHOdNOdPOdPHOdBOd
BHOdMOdROdLOdRROdSOdHOcVOWEL SIGN AeIeUeEeOOcPOETRY MARK-1e2e3e4cSIGN ALTERNATE HASANTA=A830aNORTH I
NDIC FRACTION ONE QUARTEReHALFdTHREE QUARTERSdONE SIXTEENTHeEIGHTHdTHREE SIXTEENTHScQUARTER MARKcPLA
CEHOLDER MARKcRUPEE MARKcQUANTITY MARK=A840aPHAGS-PA LETTER KAdKHAdGAdNGAdCAdCHAdJAdNYAdTAdTHAdDAdNA
dPAdPHAdBAdMAdTSAdTSHAdDZAdWAdZHAdZAdSMALL AdYAdRAdLAdSHAdSAdHAdAdIdUdEdOdQAdXAdFAdGGAdEEcSUBJOINE
D LETTER WAeYAcLETTER TTAdTTHAdDDAdNNAdALTERNATE YAdVOICELESS SHAdVOICED HAdASPIRATED FAcSUBJOINED L
ETTER RAcSUPERFIXED LETTER RAcLETTER CANDRABINDUcSINGLE HEAD MARKcDOUBLE HEAD MARKcMARK SHADdDOUBL
E SHAD=A880aSAURASHTRA SIGN ANUSVARAcVISARGAbLETTER AcAAcIcIIcUcUUcVOCALIC RdRRdLdLLcEcEEcAIcOcOOcAU
cKAcKHAcGAcGHAcNGAcCAcCHAcJAcJHAcNYAcTTAcTTHAcDDAcDDHAcNNAcTAcTHAcDAcDHAcNAcPAcPHAcBAcBHAcMAcYAcRAcL
AcVAcSHAcSSAcSAcHAcLLAbCONSONANT SIGN HAARUbVOWEL SIGN AAdIdIIdUdUUdVOCALIC ReRReLeLLdEdEEdAIdOdOOdA
UbSIGN VIRAMAcCANDRABINDU=A8CEaSAURASHTRA DANDAbDOUBLE DANDAbDIGIT ZEROcONEcTWOcTHREEcFOURcFIVEcSIXc
SEVENcEIGHTcNINE=A8E0aCOMBINING DEVANAGARI DIGIT ZEROdONEdTWOdTHREEdFOURdFIVEdSIXdSEVENdEIGHTdNINEcL
ETTER AdUdKAdNAdPAdRAdVIcSIGN AVAGRAHAaDEVANAGARI SIGN SPACING CANDRABINDUcCANDRABINDU VIRAMAcDOUBL
E CANDRABINDU VIRAMAcCANDRABINDU TWOdTHREEdAVAGRAHAcPUSHPIKAbGAP FILLERbCARETbHEADSTROKEbSIGN SIDDHA
MbJAIN OMbLETTER AYbVOWEL SIGN AYaKAYAH LI DIGIT ZEROdONEdTWOdTHREEdFOURdFIVEdSIXdSEVENdEIGHTdNINEcL
ETTER KAdKHAdGAdNGAdSAdSHAdZAdNYAdTAdHTAdNAdPAdPHAdMAdDAdBAdRAdYAdLAdWAdTHAdHAdVAdCAdAdOEdIdOOcVOWE
L UEdEdUdEEdOcTONE PLOPHUdCALYAdCALYA PLOPHUcSIGN CWIdSHYAaREJANG LETTER KAcGAcNGAcTAcDAcNAcPAcBAcMA
cCAcJAcNYAcSAcRAcLAcYAcWAcHAcMBAcNGGAcNDAcNYJAcAbVOWEL SIGN IdUdEdAIdOdAUdEUdEAbCONSONANT SIGN NGdNd
RdHbVIRAMA=A95FaREJANG SECTION MARKaHANGUL CHOSEONG TIKEUT-MIEUMdPIEUPdSIOSdCIEUCcRIEUL-KIYEOKdSSANG
KIYEOKdTIKEUTdSSANGTIKEUTdMIEUMdPIEUPdSSANGPIEUPdKAPYEOUNPIEUPdSIOSdCIEUCdKHIEUKHcMIEUM-KIYEOKdTIKEU
TdSIOScPIEUP-SIOS-THIEUTHdKHIEUKHdHIEUHcSSANGSIOS-PIEUPcIEUNG-RIEULdHIEUHcSSANGCIEUC-HIEUHcSSANGTHIE
UTHcPHIEUPH-HIEUHcHIEUH-SIOScSSANGYEORINHIEUH=A980aJAVANESE SIGN PANYANGGAcCECAKcLAYARcWIGNYANbLETTE
R AcI KAWIcIcIIcUcPA CEREKcNGA LELETdLELET RASWADIcEcAIcOcKAcKA SASAKdMURDAcGAcGA MURDAcNGAcCAcCA MU
RDAcJAcNYA MURDAcJA MAHAPRANAcNYAcTTAcTTA MAHAPRANAcDDAcDDA MAHAPRANAcNA MURDAcTAcTA MURDAcDAcDA MAH
APRANAcNAcPAcPA MURDAcBAcBA MURDAcMAcYAcRAcRA AGUNGcLAcWAcSA MURDAdMAHAPRANAcSAcHAbSIGN CECAK TELUbV
OWEL SIGN TARUNGdTOLONGdWULUdWULU MELIKdSUKUdSUKU MENDUTdTALINGdDIRGA MUREdPEPETbCONSONANT SIGN KERE
TdPENGKALdCAKRAbPANGKONbLEFT RERENGGANbRIGHT RERENGGANbPADA ANDAPcMADYAcLUHURcWINDUcPANGKATcLINGSAcL
UNGSIcADEGcADEG ADEGcPISELEHbTURNED PADA PISELEH=A9CFaJAVANESE PANGRANGKEPbDIGIT ZEROcONEcTWOcTHREEc
FOURcFIVEcSIXcSEVENcEIGHTcNINE=A9DEaJAVANESE PADA TIRTA TUMETEScISEN-ISENaMYANMAR LETTER SHAN GHAdCH
AdJHAdNNAdBHAbSIGN SHAN SAWbMODIFIER LETTER SHAN REDUPLICATIONbLETTER TAI LAING NYAeFAeGAeGHAeJAeJHA
eDDAeDDHAeNNAbTAI LAING DIGIT ZEROeONEeTWOeTHREEeFOUReFIVEeSIXeSEVENeEIGHTeNINEbLETTER TAI LAING LLA
eDAeDHAeBAeBHA=AA00aCHAM LETTER AcIcUcEcAIcOcKAcKHAcGAcGHAcNGUEcNGAcCHAcCHHAcJAcJHAcNHUEcNHAcNHJAcTA
cTHAcDAcDHAcNUEcNAcDDAcPAcPPAcPHAcBAcBHAcMUEcMAcBBAcYAcRAcLAcVAcSSAcSAcHAbVOWEL SIGN AAdIdIIdEIdUdOE
dOdAIdAUdUEbCONSONANT SIGN YAdRAdLAdWA=AA40aCHAM LETTER FINAL KdGdNGbCONSONANT SIGN FINAL NGbLETTE
R FINAL CHdTdNdPdYdRdLdSSbCONSONANT SIGN FINAL MeH=AA50aCHAM DIGIT ZEROcONEcTWOcTHREEcFOURcFIVEcSIXc
SEVENcEIGHTcNINE=AA5CaCHAM PUNCTUATION SPIRALcDANDAcDOUBLE DANDAcTRIPLE DANDAaMYANMAR LETTER KHAMT
I GAdCAdCHAdJAdJHAdNYAdTTAdTTHAdDDAdDDHAdDHAdNAdSAdHAdHHAdFAbMODIFIER LETTER KHAMTI REDUPLICATIONbLE
TTER KHAMTI XAdZAdRAbLOGOGRAM KHAMTI OAYdQNdHMbSYMBOL AITON EXCLAMATIONdONEdTWObLETTER AITON RAbSIG
N PAO KAREN TONEcTAI LAING TONE-2f5bLETTER SHWE PALAUNG CHAeSHAaTAI VIET LETTER LOW KOdHIGH KOdLOW K
HOdHIGH KHOdLOW KHHOdHIGH KHHOdLOW GOdHIGH GOdLOW NGOdHIGH NGOdLOW COdHIGH COdLOW CHOdHIGH CHOdLOW S
OdHIGH SOdLOW NYOdHIGH NYOdLOW DOdHIGH DOdLOW TOdHIGH TOdLOW THOdHIGH THOdLOW NOdHIGH NOdLOW BOdHIG
H BOdLOW POdHIGH POdLOW PHOdHIGH PHOdLOW FOdHIGH FOdLOW MOdHIGH MOdLOW YOdHIGH YOdLOW ROdHIGH ROdLO
W LOdHIGH LOdLOW VOdHIGH VOdLOW HOdHIGH HOdLOW OdHIGH OcMAI KANGcVOWEL AAdIdUEdUdEdOcMAI KHITcVOWE
L IAdUEAdUAdAUEdAYdANdAMcTONE MAI EKeNUENGeTHOeSONG=AADBaTAI VIET SYMBOL KONdNUENGdSAMdHO HOIdKOI KO
IaMEETEI MAYEK LETTER EdOdCHAdNYAdTTAdTTHAdDDAdDDHAdNNAdSHAdSSAcVOWEL SIGN IIeUUeAAIeAUeAAUcCHEIKHAN
cAHANG KHUDAMcANJIcSYLLABLE REPETITION MARKcWORD REPETITION MARKcVOWEL SIGN VISARGAcVIRAMA=AB01aETHI
OPIC SYLLABLE TTHUcTTHIcTTHAAcTTHEEcTTHEcTTHO=AB09aETHIOPIC SYLLABLE DDHUcDDHIcDDHAAcDDHEEcDDHEcDDHO
=AB11aETHIOPIC SYLLABLE DZUcDZIcDZAAcDZEEcDZEcDZO=AB20aETHIOPIC SYLLABLE CCHHAcCCHHUcCCHHIcCCHHAAcCC
HHEEcCCHHEcCCHHO=AB28aETHIOPIC SYLLABLE BBAcBBUcBBIcBBAAcBBEEcBBEcBBO=AB30aLATIN SMALL LETTER BARRE
D ALPHAdA REVERSED-SCHWAdBLACKLETTER EdBARRED EdE WITH FLOURISHdLENIS FdSCRIPT G WITH CROSSED-TAILd
L WITH INVERTED LAZY SfDOUBLE MIDDLE TILDEfMIDDLE RINGdM WITH CROSSED-TAILdN WITH CROSSED-TAILdENG W
ITH CROSSED-TAILdBLACKLETTER OeO WITH STROKEdOPEN O WITH STROKEdINVERTED OEdTURNED OE WITH STROKEgHO
RIZONTAL STROKEeO OPEN-OgO WITH STROKEdSTIRRUP RbLETTER SMALL CAPITAL R WITH RIGHT LEGbSMALL LETTE
R R WITHOUT HANDLEdDOUBLE RdR WITH CROSSED-TAILdDOUBLE R WITH CROSSED-TAILdSCRIPT ReR WITH RINGdBASE
LINE ESHdU WITH SHORT RIGHT LEGeBAR WITH SHORT RIGHT LEGdUIdTURNED UIdU WITH LEFT HOOKdCHIdCHI WIT
H LOW RIGHT RINGgLEFT SERIFdX WITH LOW RIGHT RINGfLONG LEFT LEGhLEG AND LOW RIGHT RINGiWITH SERIFd
Y WITH SHORT RIGHT LEGaMODIFIER BREVE WITH INVERTED BREVEbLETTER SMALL HENGdL WITH INVERTED LAZY SfM
IDDLE TILDEdU WITH LEFT HOOKaLATIN SMALL LETTER SAKHA YATdIOTIFIED EdOPEN OEdUOdINVERTED ALPHAaGREE
K LETTER SMALL CAPITAL OMEGAaLATIN SMALL LETTER DZ DIGRAPH WITH RETROFLEX HOOKdTS DIGRAPH WITH RETRO
FLEX HOOKdTURNED R WITH MIDDLE TILDEaMODIFIER LETTER SMALL TURNED WcLEFT TACKcRIGHT TACK=AB70aCHEROK
EE SMALL LETTER AdEdIdOdUdVdGAdKAdGEdGIdGOdGUdGVdHAdHEdHIdHOdHUdHVdLAdLEdLIdLOdLUdLVdMAdMEdMIdMOdMUd
NAdHNAdNAHdNEdNIdNOdNUdNVdQUAdQUEdQUIdQUOdQUUdQUVdSAdSdSEdSIdSOdSUdSVdDAdTAdDEdTEdDIdTIdDOdDUdDVdDLA
dTLAdTLEdTLIdTLOdTLUdTLVdTSAdTSEdTSIdTSOdTSUdTSVdWAdWEdWIdWOdWUdWVdYAaMEETEI MAYEK LETTER KOKdSAMdLA
IdMITdPAdNAdCHILdTILdKHOUdNGOUdTHOUdWAIdYANGdHUKdUNdIdPHAMdATIYAdGOKdJHAMdRAIdBAdJILdDILdGHOUdDHOUdB
HAMdKOK LONSUMdLAI LONSUMdMIT LONSUMdPA LONSUMdNA LONSUMdTIL LONSUMdNGOU LONSUMdI LONSUMcVOWEL SIG
N ONAPeINAPeANAPeYENAPeSOUNAPeUNAPeCHEINAPeNUNGcCHEIKHEIcLUM IYEKcAPUN IYEK=ABF0aMEETEI MAYEK DIGI
T ZEROdONEdTWOdTHREEdFOURdFIVEdSIXdSEVENdEIGHTdNINE=D7B0aHANGUL JUNGSEONG O-YEOdO-IcYO-AdAEdEOcU-YEO
dI-IcYU-AEdOcEU-AdEOdEdOcI-YA-OdYAEdYEOdYEdO-IdYOdYUdIcARAEA-AdE=D7CBaHANGUL JONGSEONG NIEUN-RIEULdC
HIEUCHcSSANGTIKEUTcSSANGTIKEUT-PIEUPcTIKEUT-PIEUPdSIOSdSIOS-KIYEOKdCIEUCdCHIEUCHdTHIEUTHcRIEUL-SSANG
KIYEOKdKIYEOK-HIEUHcSSANGRIEUL-KHIEUKHcRIEUL-MIEUM-HIEUHdPIEUP-TIKEUTePHIEUPHdYESIEUNGdYEORINHIEUH-H
IEUHcKAPYEOUNRIEULcMIEUM-NIEUNdSSANGNIEUNcSSANGMIEUMcMIEUM-PIEUP-SIOSdCIEUCcPIEUP-TIKEUTdRIEUL-PHIEU
PHdMIEUMcSSANGPIEUPcPIEUP-SIOS-TIKEUTdCIEUCdCHIEUCHcSIOS-MIEUMdKAPYEOUNPIEUPcSSANGSIOS-KIYEOKdTIKEUT
cSIOS-PANSIOSdCIEUCdCHIEUCHdTHIEUTHdHIEUHcPANSIOS-PIEUPdKAPYEOUNPIEUPcYESIEUNG-MIEUMdHIEUHcCIEUC-PIE
UPdSSANGPIEUPcSSANGCIEUCcPHIEUPH-SIOSdTHIEUTH=FB00aLATIN SMALL LIGATURE FFdFIdFLdFFIdFFLdLONG S TdST
=FB13aARMENIAN SMALL LIGATURE MEN NOWeECHeINIdVEW NOWdMEN XEH=FB1DaHEBREW LETTER YOD WITH HIRIQbPOIN
T JUDEO-SPANISH VARIKAbLIGATURE YIDDISH YOD YOD PATAHbLETTER ALTERNATIVE AYINcWIDE ALEFdDALETdHEdKAF
dLAMEDdFINAL MEMdRESHdTAVcALTERNATIVE PLUS SIGNcSHIN WITH SHIN DOTeSIN DOTeDAGESH AND SHIN DOTgSIN D
OTcALEF WITH PATAHeQAMATSeMAPIQcBET WITH DAGESHcGIMEL WITH DAGESHcDALET WITH DAGESHcHE WITH MAPIQcVA
V WITH DAGESHcZAYIN WITH DAGESH=FB38aHEBREW LETTER TET WITH DAGESHcYOD WITH DAGESHcFINAL KAF WITH DA
GESHcKAF WITH DAGESHcLAMED WITH DAGESH=FB3EaHEBREW LETTER MEM WITH DAGESH=FB40aHEBREW LETTER NUN WIT
H DAGESHcSAMEKH WITH DAGESH=FB43aHEBREW LETTER FINAL PE WITH DAGESHcPE WITH DAGESH=FB46aHEBREW LETTE
R TSADI WITH DAGESHcQOF WITH DAGESHcRESH WITH DAGESHcSHIN WITH DAGESHcTAV WITH DAGESHcVAV WITH HOLAM
cBET WITH RAFEcKAF WITH RAFEcPE WITH RAFEbLIGATURE ALEF LAMEDaARABIC LETTER ALEF WASLA ISOLATED FORM
eFINAL FORMcBEEH ISOLATED FORMdFINAL FORMdINITIAL FORMdMEDIAL FORMcPEH ISOLATED FORMdFINAL FORMdINIT
IAL FORMdMEDIAL FORMcBEHEH ISOLATED FORMdFINAL FORMdINITIAL FORMdMEDIAL FORMcTTEHEH ISOLATED FORMdFI
NAL FORMdINITIAL FORMdMEDIAL FORMcTEHEH ISOLATED FORMdFINAL FORMdINITIAL FORMdMEDIAL FORMcTTEH ISOLA
TED FORMdFINAL FORMdINITIAL FORMdMEDIAL FORMcVEH ISOLATED FORMdFINAL FORMdINITIAL FORMdMEDIAL FORMcP
EHEH ISOLATED FORMdFINAL FORMdINITIAL FORMdMEDIAL FORMcDYEH ISOLATED FORMdFINAL FORMdINITIAL FORMdME
DIAL FORMcNYEH ISOLATED FORMdFINAL FORMdINITIAL FORMdMEDIAL FORMcTCHEH ISOLATED FORMdFINAL FORMdINIT
IAL FORMdMEDIAL FORMcTCHEHEH ISOLATED FORMdFINAL FORMdINITIAL FORMdMEDIAL FORMcDDAHAL ISOLATED FORMd
FINAL FORMcDAHAL ISOLATED FORMdFINAL FORMcDUL ISOLATED FORMdFINAL FORMcDDAL ISOLATED FORMdFINAL FORM
cJEH ISOLATED FORMdFINAL FORMcRREH ISOLATED FORMdFINAL FORMcKEHEH ISOLATED FORMdFINAL FORMdINITIAL F
ORMdMEDIAL FORMcGAF ISOLATED FORMdFINAL FORMdINITIAL FORMdMEDIAL FORMcGUEH ISOLATED FORMdFINAL FORMd
INITIAL FORMdMEDIAL FORMcNGOEH ISOLATED FORMdFINAL FORMdINITIAL FORMdMEDIAL FORMcNOON GHUNNA ISOLATE
D FORMeFINAL FORMcRNOON ISOLATED FORMdFINAL FORMdINITIAL FORMdMEDIAL FORMcHEH WITH YEH ABOVE ISOLATE
D FORMgFINAL FORMdGOAL ISOLATED FORMeFINAL FORMeINITIAL FORMeMEDIAL FORMdDOACHASHMEE ISOLATED FORMeF
INAL FORMeINITIAL FORMeMEDIAL FORMcYEH BARREE ISOLATED FORMeFINAL FORMeWITH HAMZA ABOVE ISOLATED FOR
MhFINAL FORMbSYMBOL DOT ABOVEdBELOWcTWO DOTS ABOVEeBELOWcTHREE DOTS ABOVEeBELOWePOINTING DOWNWARDS A
BOVEgBELOWcFOUR DOTS ABOVEeBELOWcDOUBLE VERTICAL BAR BELOWcTWO DOTS VERTICALLY ABOVEfBELOWcRINGcSMAL
L TAH ABOVEeBELOWcWASLA ABOVE=FBD3aARABIC LETTER NG ISOLATED FORMdFINAL FORMdINITIAL FORMdMEDIAL FOR
McU ISOLATED FORMdFINAL FORMcOE ISOLATED FORMdFINAL FORMcYU ISOLATED FORMdFINAL FORMcU WITH HAMZA AB
OVE ISOLATED FORMcVE ISOLATED FORMdFINAL FORMcKIRGHIZ OE ISOLATED FORMeFINAL FORMdYU ISOLATED FORMeF
INAL FORMcE ISOLATED FORMdFINAL FORMdINITIAL FORMdMEDIAL FORMcUIGHUR KAZAKH KIRGHIZ ALEF MAKSURA INI
TIAL FORMhMEDIAL FORMbLIGATURE YEH WITH HAMZA ABOVE WITH ALEF ISOLATED FORMiFINAL FORMhAE ISOLATED F
ORMiFINAL FORMhWAW ISOLATED FORMiFINAL FORMhU ISOLATED FORMiFINAL FORMhOE ISOLATED FORMiFINAL FORMhY
U ISOLATED FORMiFINAL FORMhE ISOLATED FORMiFINAL FORMiINITIAL FORMcUIGHUR KIRGHIZ YEH WITH HAMZA ABO
VE WITH ALEF MAKSURA ISOLATED FORMlFINAL FORMlINITIAL FORMbLETTER FARSI YEH ISOLATED FORMeFINAL FORM
eINITIAL FORMeMEDIAL FORMbLIGATURE YEH WITH HAMZA ABOVE WITH JEEM ISOLATED FORMhHAH ISOLATED FORMhME
EM ISOLATED FORMhALEF MAKSURA ISOLATED FORMhYEH ISOLATED FORMcBEH WITH JEEM ISOLATED FORMeHAH ISOLAT
ED FORMeKHAH ISOLATED FORMeMEEM ISOLATED FORMeALEF MAKSURA ISOLATED FORMeYEH ISOLATED FORMcTEH WIT
H JEEM ISOLATED FORMeHAH ISOLATED FORMeKHAH ISOLATED FORMeMEEM ISOLATED FORMeALEF MAKSURA ISOLATED F
ORMeYEH ISOLATED FORMcTHEH WITH JEEM ISOLATED FORMeMEEM ISOLATED FORMeALEF MAKSURA ISOLATED FORMeYE
H ISOLATED FORMcJEEM WITH HAH ISOLATED FORMeMEEM ISOLATED FORMcHAH WITH JEEM ISOLATED FORMeMEEM ISOL
ATED FORMcKHAH WITH JEEM ISOLATED FORMeHAH ISOLATED FORMeMEEM ISOLATED FORMcSEEN WITH JEEM ISOLATE
D FORMeHAH ISOLATED FORMeKHAH ISOLATED FORMeMEEM ISOLATED FORMcSAD WITH HAH ISOLATED FORMeMEEM ISOLA
TED FORMcDAD WITH JEEM ISOLATED FORMeHAH ISOLATED FORMeKHAH ISOLATED FORMeMEEM ISOLATED FORMcTAH WIT
H HAH ISOLATED FORMeMEEM ISOLATED FORMcZAH WITH MEEM ISOLATED FORMcAIN WITH JEEM ISOLATED FORMeMEE
M ISOLATED FORMcGHAIN WITH JEEM ISOLATED FORMeMEEM ISOLATED FORMcFEH WITH JEEM ISOLATED FORMeHAH ISO
LATED FORMeKHAH ISOLATED FORMeMEEM ISOLATED FORMeALEF MAKSURA ISOLATED FORMeYEH ISOLATED FORMcQAF WI
TH HAH ISOLATED FORMeMEEM ISOLATED FORMeALEF MAKSURA ISOLATED FORMeYEH ISOLATED FORMcKAF WITH ALEF I
SOLATED FORMeJEEM ISOLATED FORMeHAH ISOLATED FORMeKHAH ISOLATED FORMeLAM ISOLATED FORMeMEEM ISOLATE
D FORMeALEF MAKSURA ISOLATED FORMeYEH ISOLATED FORMcLAM WITH JEEM ISOLATED FORMeHAH ISOLATED FORMeKH
AH ISOLATED FORMeMEEM ISOLATED FORMeALEF MAKSURA ISOLATED FORMeYEH ISOLATED FORMcMEEM WITH JEEM ISOL
ATED FORMeHAH ISOLATED FORMeKHAH ISOLATED FORMeMEEM ISOLATED FORMeALEF MAKSURA ISOLATED FORMeYEH ISO
LATED FORMcNOON WITH JEEM ISOLATED FORMeHAH ISOLATED FORMeKHAH ISOLATED FORMeMEEM ISOLATED FORMeALE
F MAKSURA ISOLATED FORMeYEH ISOLATED FORMcHEH WITH JEEM ISOLATED FORMeMEEM ISOLATED FORMeALEF MAKSUR
A ISOLATED FORMeYEH ISOLATED FORMcYEH WITH JEEM ISOLATED FORMeHAH ISOLATED FORMeKHAH ISOLATED FORMeM
EEM ISOLATED FORMeALEF MAKSURA ISOLATED FORMeYEH ISOLATED FORMcTHAL WITH SUPERSCRIPT ALEF ISOLATED F
ORMcREH WITH SUPERSCRIPT ALEF ISOLATED FORMcALEF MAKSURA WITH SUPERSCRIPT ALEF ISOLATED FORMcSHADD
A WITH DAMMATAN ISOLATED FORMeKASRATAN ISOLATED FORMeFATHA ISOLATED FORMeDAMMA ISOLATED FORMeKASRA I
SOLATED FORMeSUPERSCRIPT ALEF ISOLATED FORMcYEH WITH HAMZA ABOVE WITH REH FINAL FORMhZAIN FINAL FORM
hMEEM FINAL FORMhNOON FINAL FORMhALEF MAKSURA FINAL FORMhYEH FINAL FORMcBEH WITH REH FINAL FORMeZAI
N FINAL FORMeMEEM FINAL FORMeNOON FINAL FORMeALEF MAKSURA FINAL FORMeYEH FINAL FORMcTEH WITH REH FIN
AL FORMeZAIN FINAL FORMeMEEM FINAL FORMeNOON FINAL FORMeALEF MAKSURA FINAL FORMeYEH FINAL FORMcTHE
H WITH REH FINAL FORMeZAIN FINAL FORMeMEEM FINAL FORMeNOON FINAL FORMeALEF MAKSURA FINAL FORMeYEH FI
NAL FORMcFEH WITH ALEF MAKSURA FINAL FORMeYEH FINAL FORMcQAF WITH ALEF MAKSURA FINAL FORMeYEH FINA
L FORMcKAF WITH ALEF FINAL FORMeLAM FINAL FORMeMEEM FINAL FORMeALEF MAKSURA FINAL FORMeYEH FINAL FOR
McLAM WITH MEEM FINAL FORMeALEF MAKSURA FINAL FORMeYEH FINAL FORMcMEEM WITH ALEF FINAL FORMeMEEM FIN
AL FORMcNOON WITH REH FINAL FORMeZAIN FINAL FORMeMEEM FINAL FORMeNOON FINAL FORMeALEF MAKSURA FINA
L FORMeYEH FINAL FORMcALEF MAKSURA WITH SUPERSCRIPT ALEF FINAL FORMcYEH WITH REH FINAL FORMeZAIN FIN
AL FORMeMEEM FINAL FORMeNOON FINAL FORMeALEF MAKSURA FINAL FORMeYEH FINAL FORMeHAMZA ABOVE WITH JEE
M INITIAL FORMhHAH INITIAL FORMhKHAH INITIAL FORMhMEEM INITIAL FORMhHEH INITIAL FORMcBEH WITH JEEM I
NITIAL FORMeHAH INITIAL FORMeKHAH INITIAL FORMeMEEM INITIAL FORMeHEH INITIAL FORMcTEH WITH JEEM INIT
IAL FORMeHAH INITIAL FORMeKHAH INITIAL FORMeMEEM INITIAL FORMeHEH INITIAL FORMcTHEH WITH MEEM INITIA
L FORMcJEEM WITH HAH INITIAL FORMeMEEM INITIAL FORMcHAH WITH JEEM INITIAL FORMeMEEM INITIAL FORMcKHA
H WITH JEEM INITIAL FORMeMEEM INITIAL FORMcSEEN WITH JEEM INITIAL FORMeHAH INITIAL FORMeKHAH INITIA
L FORMeMEEM INITIAL FORMcSAD WITH HAH INITIAL FORMeKHAH INITIAL FORMeMEEM INITIAL FORMcDAD WITH JEE
M INITIAL FORMeHAH INITIAL FORMeKHAH INITIAL FORMeMEEM INITIAL FORMcTAH WITH HAH INITIAL FORMcZAH WI
TH MEEM INITIAL FORMcAIN WITH JEEM INITIAL FORMeMEEM INITIAL FORMcGHAIN WITH JEEM INITIAL FORMeMEE
M INITIAL FORMcFEH WITH JEEM INITIAL FORMeHAH INITIAL FORMeKHAH INITIAL FORMeMEEM INITIAL FORMcQAF W
ITH HAH INITIAL FORMeMEEM INITIAL FORMcKAF WITH JEEM INITIAL FORMeHAH INITIAL FORMeKHAH INITIAL FORM
eLAM INITIAL FORMeMEEM INITIAL FORMcLAM WITH JEEM INITIAL FORMeHAH INITIAL FORMeKHAH INITIAL FORMeME
EM INITIAL FORMeHEH INITIAL FORMcMEEM WITH JEEM INITIAL FORMeHAH INITIAL FORMeKHAH INITIAL FORMeMEE
M INITIAL FORMcNOON WITH JEEM INITIAL FORMeHAH INITIAL FORMeKHAH INITIAL FORMeMEEM INITIAL FORMeHE
H INITIAL FORMcHEH WITH JEEM INITIAL FORMeMEEM INITIAL FORMeSUPERSCRIPT ALEF INITIAL FORMcYEH WITH J
EEM INITIAL FORMeHAH INITIAL FORMeKHAH INITIAL FORMeMEEM INITIAL FORMeHEH INITIAL FORMeHAMZA ABOVE W
ITH MEEM MEDIAL FORMhHEH MEDIAL FORMcBEH WITH MEEM MEDIAL FORMeHEH MEDIAL FORMcTEH WITH MEEM MEDIA
L FORMeHEH MEDIAL FORMcTHEH WITH MEEM MEDIAL FORMeHEH MEDIAL FORMcSEEN WITH MEEM MEDIAL FORMeHEH MED
IAL FORMcSHEEN WITH MEEM MEDIAL FORMeHEH MEDIAL FORMcKAF WITH LAM MEDIAL FORMeMEEM MEDIAL FORMcLAM W
ITH MEEM MEDIAL FORMcNOON WITH MEEM MEDIAL FORMeHEH MEDIAL FORMcYEH WITH MEEM MEDIAL FORMeHEH MEDIA
L FORMcSHADDA WITH FATHA MEDIAL FORMeDAMMA MEDIAL FORMeKASRA MEDIAL FORMcTAH WITH ALEF MAKSURA ISOLA
TED FORMeYEH ISOLATED FORMcAIN WITH ALEF MAKSURA ISOLATED FORMeYEH ISOLATED FORMcGHAIN WITH ALEF MAK
SURA ISOLATED FORMeYEH ISOLATED FORMcSEEN WITH ALEF MAKSURA ISOLATED FORMeYEH ISOLATED FORMcSHEEN WI
TH ALEF MAKSURA ISOLATED FORMeYEH ISOLATED FORMcHAH WITH ALEF MAKSURA ISOLATED FORMeYEH ISOLATED FOR
McJEEM WITH ALEF MAKSURA ISOLATED FORMeYEH ISOLATED FORMcKHAH WITH ALEF MAKSURA ISOLATED FORMeYEH IS
OLATED FORMcSAD WITH ALEF MAKSURA ISOLATED FORMeYEH ISOLATED FORMcDAD WITH ALEF MAKSURA ISOLATED FOR
MeYEH ISOLATED FORMcSHEEN WITH JEEM ISOLATED FORMeHAH ISOLATED FORMeKHAH ISOLATED FORMeMEEM ISOLATE
D FORMeREH ISOLATED FORMcSEEN WITH REH ISOLATED FORMcSAD WITH REH ISOLATED FORMcDAD WITH REH ISOLATE
D FORMcTAH WITH ALEF MAKSURA FINAL FORMeYEH FINAL FORMcAIN WITH ALEF MAKSURA FINAL FORMeYEH FINAL FO
RMcGHAIN WITH ALEF MAKSURA FINAL FORMeYEH FINAL FORMcSEEN WITH ALEF MAKSURA FINAL FORMeYEH FINAL FOR
McSHEEN WITH ALEF MAKSURA FINAL FORMeYEH FINAL FORMcHAH WITH ALEF MAKSURA FINAL FORMeYEH FINAL FORMc
JEEM WITH ALEF MAKSURA FINAL FORMeYEH FINAL FORMcKHAH WITH ALEF MAKSURA FINAL FORMeYEH FINAL FORMcSA
D WITH ALEF MAKSURA FINAL FORMeYEH FINAL FORMcDAD WITH ALEF MAKSURA FINAL FORMeYEH FINAL FORMcSHEE
N WITH JEEM FINAL FORMeHAH FINAL FORMeKHAH FINAL FORMeMEEM FINAL FORMeREH FINAL FORMcSEEN WITH REH F
INAL FORMcSAD WITH REH FINAL FORMcDAD WITH REH FINAL FORMcSHEEN WITH JEEM INITIAL FORMeHAH INITIAL F
ORMeKHAH INITIAL FORMeMEEM INITIAL FORMcSEEN WITH HEH INITIAL FORMcSHEEN WITH HEH INITIAL FORMcTAH W
ITH MEEM INITIAL FORMcSEEN WITH JEEM MEDIAL FORMeHAH MEDIAL FORMeKHAH MEDIAL FORMcSHEEN WITH JEEM ME
DIAL FORMeHAH MEDIAL FORMeKHAH MEDIAL FORMcTAH WITH MEEM MEDIAL FORMcZAH WITH MEEM MEDIAL FORMcALE
F WITH FATHATAN FINAL FORMfISOLATED FORMaORNATE LEFT PARENTHESISbRIGHT PARENTHESISaARABIC LIGATURE R
AHIMAHU ALLAAHcRADI ALLAAHU ANHeANHAAeANHUMeANHUMAAeANHUNNAcSALLALLAAHU ALAYHI WA-AALIHcALAYHI AS-SA
LAAMcALAYHIM AS-SALAAMcALAYHIMAA AS-SALAAMcALAYHI AS-SALAATU WAS-SALAAMcQUDDISA SIRRAHcSALLALLAHU AL
AYHI WAAALIHEE WA-SALLAMcALAYHAA AS-SALAAMcTABAARAKA WA-TAAALAAcRAHIMAHUM ALLAAHcTEH WITH JEEM WIT
H MEEM INITIAL FORMeHAH WITH JEEM FINAL FORMhINITIAL FORMgMEEM INITIAL FORMeKHAH WITH MEEM INITIAL F
ORMeMEEM WITH JEEM INITIAL FORMgHAH INITIAL FORMgKHAH INITIAL FORMcJEEM WITH MEEM WITH HAH FINAL FOR
MhINITIAL FORMcHAH WITH MEEM WITH YEH FINAL FORMgALEF MAKSURA FINAL FORMcSEEN WITH HAH WITH JEEM INI
TIAL FORMeJEEM WITH HAH INITIAL FORMgALEF MAKSURA FINAL FORMeMEEM WITH HAH FINAL FORMhINITIAL FORMgJ
EEM INITIAL FORMgMEEM FINAL FORMhINITIAL FORMcSAD WITH HAH WITH HAH FINAL FORMhINITIAL FORMeMEEM WIT
H MEEM FINAL FORMcSHEEN WITH HAH WITH MEEM FINAL FORMhINITIAL FORMeJEEM WITH YEH FINAL FORMeMEEM WIT
H KHAH FINAL FORMhINITIAL FORMgMEEM FINAL FORMhINITIAL FORMcDAD WITH HAH WITH ALEF MAKSURA FINAL FOR
MeKHAH WITH MEEM FINAL FORMhINITIAL FORMcTAH WITH MEEM WITH HAH FINAL FORMhINITIAL FORMgMEEM INITIA
L FORMgYEH FINAL FORMcAIN WITH JEEM WITH MEEM FINAL FORMeMEEM WITH MEEM FINAL FORMhINITIAL FORMgALE
F MAKSURA FINAL FORMcGHAIN WITH MEEM WITH MEEM FINAL FORMgYEH FINAL FORMgALEF MAKSURA FINAL FORMcFE
H WITH KHAH WITH MEEM FINAL FORMhINITIAL FORMcQAF WITH MEEM WITH HAH FINAL FORMgMEEM FINAL FORMcLA
M WITH HAH WITH MEEM FINAL FORMgYEH FINAL FORMgALEF MAKSURA FINAL FORMeJEEM WITH JEEM INITIAL FORMhF
INAL FORMeKHAH WITH MEEM FINAL FORMhINITIAL FORMeMEEM WITH HAH FINAL FORMhINITIAL FORMcMEEM WITH HA
H WITH JEEM INITIAL FORMgMEEM INITIAL FORMgYEH FINAL FORMeJEEM WITH HAH INITIAL FORMgMEEM INITIAL FO
RMeKHAH WITH JEEM INITIAL FORMgMEEM INITIAL FORM=FD92aARABIC LIGATURE MEEM WITH JEEM WITH KHAH INITI
AL FORMcHEH WITH MEEM WITH JEEM INITIAL FORMgMEEM INITIAL FORMcNOON WITH HAH WITH MEEM INITIAL FORMg
ALEF MAKSURA FINAL FORMeJEEM WITH MEEM FINAL FORMhINITIAL FORMgALEF MAKSURA FINAL FORMeMEEM WITH YE
H FINAL FORMgALEF MAKSURA FINAL FORMcYEH WITH MEEM WITH MEEM FINAL FORMhINITIAL FORMcBEH WITH KHAH W
ITH YEH FINAL FORMcTEH WITH JEEM WITH YEH FINAL FORMgALEF MAKSURA FINAL FORMeKHAH WITH YEH FINAL FOR
MgALEF MAKSURA FINAL FORMeMEEM WITH YEH FINAL FORMgALEF MAKSURA FINAL FORMcJEEM WITH MEEM WITH YEH F
INAL FORMeHAH WITH ALEF MAKSURA FINAL FORMeMEEM WITH ALEF MAKSURA FINAL FORMcSEEN WITH KHAH WITH ALE
F MAKSURA FINAL FORMcSAD WITH HAH WITH YEH FINAL FORMcSHEEN WITH HAH WITH YEH FINAL FORMcDAD WITH HA
H WITH YEH FINAL FORMcLAM WITH JEEM WITH YEH FINAL FORMeMEEM WITH YEH FINAL FORMcYEH WITH HAH WITH Y
EH FINAL FORMeJEEM WITH YEH FINAL FORMeMEEM WITH YEH FINAL FORMcMEEM WITH MEEM WITH YEH FINAL FORMcQ
AF WITH MEEM WITH YEH FINAL FORMcNOON WITH HAH WITH YEH FINAL FORMcQAF WITH MEEM WITH HAH INITIAL FO
RMcLAM WITH HAH WITH MEEM INITIAL FORMcAIN WITH MEEM WITH YEH FINAL FORMcKAF WITH MEEM WITH YEH FINA
L FORMcNOON WITH JEEM WITH HAH INITIAL FORMcMEEM WITH KHAH WITH YEH FINAL FORMcLAM WITH JEEM WITH ME
EM INITIAL FORMcKAF WITH MEEM WITH MEEM FINAL FORMcLAM WITH JEEM WITH MEEM FINAL FORMcNOON WITH JEE
M WITH HAH FINAL FORMcJEEM WITH HAH WITH YEH FINAL FORMcHAH WITH JEEM WITH YEH FINAL FORMcMEEM WIT
H JEEM WITH YEH FINAL FORMcFEH WITH MEEM WITH YEH FINAL FORMcBEH WITH HAH WITH YEH FINAL FORMcKAF WI
TH MEEM WITH MEEM INITIAL FORMcAIN WITH JEEM WITH MEEM INITIAL FORMcSAD WITH MEEM WITH MEEM INITIA
L FORMcSEEN WITH KHAH WITH YEH FINAL FORMcNOON WITH JEEM WITH YEH FINAL FORM=FDCFaARABIC LIGATURE SA
LAAMUHU ALAYNAA=FDF0aARABIC LIGATURE SALLA USED AS KORANIC STOP SIGN ISOLATED FORMcQALA USED AS KORA
NIC STOP SIGN ISOLATED FORMcALLAH ISOLATED FORMcAKBAR ISOLATED FORMcMOHAMMAD ISOLATED FORMcSALAM ISO
LATED FORMcRASOUL ISOLATED FORMcALAYHE ISOLATED FORMcWASALLAM ISOLATED FORMcSALLA ISOLATED FORMcSALL
ALLAHOU ALAYHE WASALLAMcJALLAJALALOUHOUaRIAL SIGNaARABIC LIGATURE BISMILLAH AR-RAHMAN AR-RAHEEMcSUBH
AANAHU WA TAAALAAcAZZA WA JALLaVARIATION SELECTOR-1c2c3c4c5c6c7c8c9c10c11c12c13c14c15c16aPRESENTATIO
N FORM FOR VERTICAL COMMAeIDEOGRAPHIC COMMAfFULL STOPeCOLONeSEMICOLONeEXCLAMATION MARKeQUESTION MARK
eLEFT WHITE LENTICULAR BRACKETeRIGHT WHITE LENTICULAR BRAKCETeHORIZONTAL ELLIPSIS=FE20aCOMBINING LIG
ATURE LEFT HALFcRIGHT HALFbDOUBLE TILDE LEFT HALFdRIGHT HALFbMACRON LEFT HALFcRIGHT HALFbCONJOININ
G MACRONbLIGATURE LEFT HALF BELOWcRIGHT HALF BELOWbTILDE LEFT HALF BELOWcRIGHT HALF BELOWbMACRON LEF
T HALF BELOWcRIGHT HALF BELOWbCONJOINING MACRON BELOWbCYRILLIC TITLO LEFT HALFdRIGHT HALFaPRESENTATI
ON FORM FOR VERTICAL TWO DOT LEADEReEM DASHeEN DASHeLOW LINEeWAVY LOW LINEeLEFT PARENTHESISeRIGHT PA
RENTHESISeLEFT CURLY BRACKETeRIGHT CURLY BRACKETeLEFT TORTOISE SHELL BRACKETeRIGHT TORTOISE SHELL BR
ACKETeLEFT BLACK LENTICULAR BRACKETeRIGHT BLACK LENTICULAR BRACKETeLEFT DOUBLE ANGLE BRACKETeRIGHT D
OUBLE ANGLE BRACKETeLEFT ANGLE BRACKETeRIGHT ANGLE BRACKETeLEFT CORNER BRACKETeRIGHT CORNER BRACKETe
LEFT WHITE CORNER BRACKETeRIGHT WHITE CORNER BRACKETaSESAME DOTaWHITE SESAME DOTaPRESENTATION FORM F
OR VERTICAL LEFT SQUARE BRACKETeRIGHT SQUARE BRACKETaDASHED OVERLINEaCENTRELINE OVERLINEaWAVY OVERLI
NEaDOUBLE WAVY OVERLINEaDASHED LOW LINEaCENTRELINE LOW LINEaWAVY LOW LINEaSMALL COMMAbIDEOGRAPHIC CO
MMAbFULL STOP=FE54aSMALL SEMICOLONbCOLONbQUESTION MARKbEXCLAMATION MARKbEM DASHbLEFT PARENTHESISbRIG
HT PARENTHESISbLEFT CURLY BRACKETbRIGHT CURLY BRACKETbLEFT TORTOISE SHELL BRACKETbRIGHT TORTOISE SHE
LL BRACKETbNUMBER SIGNbAMPERSANDbASTERISKbPLUS SIGNbHYPHEN-MINUSbLESS-THAN SIGNbGREATER-THAN SIGNbEQ
UALS SIGN=FE68aSMALL REVERSE SOLIDUSbDOLLAR SIGNbPERCENT SIGNbCOMMERCIAL AT=FE70aARABIC FATHATAN ISO
LATED FORMbTATWEEL WITH FATHATAN ABOVEbDAMMATAN ISOLATED FORMbTAIL FRAGMENTbKASRATAN ISOLATED FORM=F
E76aARABIC FATHA ISOLATED FORMcMEDIAL FORMbDAMMA ISOLATED FORMcMEDIAL FORMbKASRA ISOLATED FORMcMEDIA
L FORMbSHADDA ISOLATED FORMcMEDIAL FORMbSUKUN ISOLATED FORMcMEDIAL FORMbLETTER HAMZA ISOLATED FORMcA
LEF WITH MADDA ABOVE ISOLATED FORMgFINAL FORMeHAMZA ABOVE ISOLATED FORMgFINAL FORMcWAW WITH HAMZA AB
OVE ISOLATED FORMgFINAL FORMcALEF WITH HAMZA BELOW ISOLATED FORMgFINAL FORMcYEH WITH HAMZA ABOVE ISO
LATED FORMgFINAL FORMgINITIAL FORMgMEDIAL FORMcALEF ISOLATED FORMdFINAL FORMcBEH ISOLATED FORMdFINA
L FORMdINITIAL FORMdMEDIAL FORMcTEH MARBUTA ISOLATED FORMeFINAL FORMdISOLATED FORMdFINAL FORMdINITIA
L FORMdMEDIAL FORMcTHEH ISOLATED FORMdFINAL FORMdINITIAL FORMdMEDIAL FORMcJEEM ISOLATED FORMdFINAL F
ORMdINITIAL FORMdMEDIAL FORMcHAH ISOLATED FORMdFINAL FORMdINITIAL FORMdMEDIAL FORMcKHAH ISOLATED FOR
MdFINAL FORMdINITIAL FORMdMEDIAL FORMcDAL ISOLATED FORMdFINAL FORMcTHAL ISOLATED FORMdFINAL FORMcRE
H ISOLATED FORMdFINAL FORMcZAIN ISOLATED FORMdFINAL FORMcSEEN ISOLATED FORMdFINAL FORMdINITIAL FORMd
MEDIAL FORMcSHEEN ISOLATED FORMdFINAL FORMdINITIAL FORMdMEDIAL FORMcSAD ISOLATED FORMdFINAL FORMdINI
TIAL FORMdMEDIAL FORMcDAD ISOLATED FORMdFINAL FORMdINITIAL FORMdMEDIAL FORMcTAH ISOLATED FORMdFINA
L FORMdINITIAL FORMdMEDIAL FORMcZAH ISOLATED FORMdFINAL FORMdINITIAL FORMdMEDIAL FORMcAIN ISOLATED F
ORMdFINAL FORMdINITIAL FORMdMEDIAL FORMcGHAIN ISOLATED FORMdFINAL FORMdINITIAL FORMdMEDIAL FORMcFE
H ISOLATED FORMdFINAL FORMdINITIAL FORMdMEDIAL FORMcQAF ISOLATED FORMdFINAL FORMdINITIAL FORMdMEDIA
L FORMcKAF ISOLATED FORMdFINAL FORMdINITIAL FORMdMEDIAL FORMcLAM ISOLATED FORMdFINAL FORMdINITIAL FO
RMdMEDIAL FORMcMEEM ISOLATED FORMdFINAL FORMdINITIAL FORMdMEDIAL FORMcNOON ISOLATED FORMdFINAL FORMd
INITIAL FORMdMEDIAL FORMcHEH ISOLATED FORMdFINAL FORMdINITIAL FORMdMEDIAL FORMcWAW ISOLATED FORMdFIN
AL FORMcALEF MAKSURA ISOLATED FORMeFINAL FORMcYEH ISOLATED FORMdFINAL FORMdINITIAL FORMdMEDIAL FORMb
LIGATURE LAM WITH ALEF WITH MADDA ABOVE ISOLATED FORMiFINAL FORMgHAMZA ABOVE ISOLATED FORMiFINAL FOR
MhBELOW ISOLATED FORMiFINAL FORMfISOLATED FORMfFINAL FORM=FEFFaZERO WIDTH NO-BREAK SPACE=FF01aFULLWI
DTH EXCLAMATION MARKbQUOTATION MARKbNUMBER SIGNbDOLLAR SIGNbPERCENT SIGNbAMPERSANDbAPOSTROPHEbLEFT P
ARENTHESISbRIGHT PARENTHESISbASTERISKbPLUS SIGNbCOMMAbHYPHEN-MINUSbFULL STOPbSOLIDUSbDIGIT ZEROcONEc
TWOcTHREEcFOURcFIVEcSIXcSEVENcEIGHTcNINEbCOLONbSEMICOLONbLESS-THAN SIGNbEQUALS SIGNbGREATER-THAN SIG
NbQUESTION MARKbCOMMERCIAL ATbLATIN CAPITAL LETTER AeBeCeDeEeFeGeHeIeJeKeLeMeNeOePeQeReSeTeUeVeWeXeY
eZbLEFT SQUARE BRACKETbREVERSE SOLIDUSbRIGHT SQUARE BRACKETbCIRCUMFLEX ACCENTbLOW LINEbGRAVE ACCENTb
LATIN SMALL LETTER AeBeCeDeEeFeGeHeIeJeKeLeMeNeOePeQeReSeTeUeVeWeXeYeZbLEFT CURLY BRACKETbVERTICAL L
INEbRIGHT CURLY BRACKETbTILDEbLEFT WHITE PARENTHESISbRIGHT WHITE PARENTHESISaHALFWIDTH IDEOGRAPHIC F
ULL STOPbLEFT CORNER BRACKETbRIGHT CORNER BRACKETbIDEOGRAPHIC COMMAbKATAKANA MIDDLE DOTcLETTER WOdSM
ALL AeIeUeEeOeYAeYUeYOeTUbKATAKANA-HIRAGANA PROLONGED SOUND MARKbKATAKANA LETTER AdIdUdEdOdKAdKIdKUd
KEdKOdSAdSIdSUdSEdSOdTAdTIdTUdTEdTOdNAdNIdNUdNEdNOdHAdHIdHUdHEdHOdMAdMIdMUdMEdMOdYAdYUdYOdRAdRIdRUdR
EdROdWAdNcVOICED SOUND MARKcSEMI-VOICED SOUND MARKbHANGUL FILLERcLETTER KIYEOKdSSANGKIYEOKdKIYEOK-SI
OSdNIEUNdNIEUN-CIEUCeHIEUHdTIKEUTdSSANGTIKEUTdRIEULdRIEUL-KIYEOKeMIEUMePIEUPeSIOSeTHIEUTHePHIEUPHeHI
EUHdMIEUMdPIEUPdSSANGPIEUPdPIEUP-SIOSdSIOSdSSANGSIOSdIEUNGdCIEUCdSSANGCIEUCdCHIEUCHdKHIEUKHdTHIEUTHd
PHIEUPHdHIEUH=FFC2aHALFWIDTH HANGUL LETTER AdAEdYAdYAEdEOdE=FFCAaHALFWIDTH HANGUL LETTER YEOdYEdOdWA
dWAEdOE=FFD2aHALFWIDTH HANGUL LETTER YOdUdWEOdWEdWIdYU=FFDAaHALFWIDTH HANGUL LETTER EUdYIdI=FFE0aFUL
LWIDTH CENT SIGNbPOUND SIGNbNOT SIGNbMACRONbBROKEN BARbYEN SIGNbWON SIGN=FFE8aHALFWIDTH FORMS LIGH
T VERTICALbLEFTWARDS ARROWbUPWARDS ARROWbRIGHTWARDS ARROWbDOWNWARDS ARROWbBLACK SQUAREbWHITE CIRCLE=
FFF9aINTERLINEAR ANNOTATION ANCHORcSEPARATORcTERMINATORaOBJECT REPLACEMENT CHARACTERaREPLACEMENT CHA
RACTER=10000aLINEAR B SYLLABLE B008 AdB038 EdB028 IdB061 OdB010 UdB001 DAdB045 DEdB007 DIdB014 DOdB0
51 DUdB057 JAdB046 JE=1000DaLINEAR B SYLLABLE B036 JOdB065 JUdB077 KAdB044 KEdB067 KIdB070 KOdB081 K
UdB080 MAdB013 MEdB073 MIdB015 MOdB023 MUdB006 NAdB024 NEdB030 NIdB052 NOdB055 NUdB003 PAdB072 PEdB0
39 PIdB011 POdB050 PUdB016 QAdB078 QEdB021 QIdB032 QO=10028aLINEAR B SYLLABLE B060 RAdB027 REdB053 R
IdB002 ROdB026 RUdB031 SAdB009 SEdB041 SIdB012 SOdB058 SUdB059 TAdB004 TEdB037 TIdB005 TOdB069 TUdB0
54 WAdB075 WEdB040 WIdB042 WO=1003CaLINEAR B SYLLABLE B017 ZAdB074 ZE=1003FaLINEAR B SYLLABLE B020 Z
OdB025 A2dB043 A3dB085 AUdB071 DWEdB090 DWOdB048 NWAdB029 PU2dB062 PTEdB076 RA2dB033 RA3dB068 RO2dB0
66 TA2dB087 TWEdB091 TWO=10050aLINEAR B SYMBOL B018dB019dB022dB034dB047dB049dB056dB063dB064dB079dB08
2dB083dB086dB089=10080aLINEAR B IDEOGRAM B100 MANdB102 WOMANdB104 DEERdB105 EQUIDdB105F MAREdB105M S
TALLIONdB106F EWEdB106M RAMdB107F SHE-GOATdB107M HE-GOATdB108F SOWdB108M BOARdB109F COWdB109M BULLdB
120 WHEATdB121 BARLEYdB122 OLIVEdB123 SPICEdB125 CYPERUScMONOGRAM B127 KAPOdB128 KANAKOcIDEOGRAM B13
0 OILdB131 WINEdB132cMONOGRAM B133 AREPAdB135 MERIcIDEOGRAM B140 BRONZEdB141 GOLDdB142dB145 WOOLdB14
6dB150dB151 HORNdB152dB153dB154cMONOGRAM B156 TURO2cIDEOGRAM B157dB158dB159 CLOTHdB160dB161dB162 GAR
MENTdB163 ARMOURdB164dB165dB166dB167dB168dB169dB170dB171dB172dB173 MONTHdB174dB176 TREEdB177dB178dB1
79dB180dB181dB182dB183dB184dB185dB189dB190dB191 HELMETdB220 FOOTSTOOLdB225 BATHTUBdB230 SPEARdB231 A
RROWdB232dB233 SWORDdB234dB236dB240 WHEELED CHARIOTdB241 CHARIOTdB242 CHARIOT FRAMEdB243 WHEELdB245d
B246cMONOGRAM B247 DIPTEcIDEOGRAM B248dB249dB251dB252dB253dB254 DARTdB255dB256dB257dB258dB259dVESSE
L B155eB200eB201eB202eB203eB204eB205eB206eB207eB208eB209eB210eB211eB212eB213eB214eB215eB216eB217eB21
8eB219eB221eB222eB226eB227eB228eB229eB250eB305=10100aAEGEAN WORD SEPARATOR LINEdDOTbCHECK MARK=10107
aAEGEAN NUMBER ONEcTWOcTHREEcFOURcFIVEcSIXcSEVENcEIGHTcNINEcTENcTWENTYcTHIRTYcFORTYcFIFTYcSIXTYcSEVE
NTYcEIGHTYcNINETYcONE HUNDREDcTWO HUNDREDcTHREE HUNDREDcFOUR HUNDREDcFIVE HUNDREDcSIX HUNDREDcSEVE
N HUNDREDcEIGHT HUNDREDcNINE HUNDREDcONE THOUSANDcTWO THOUSANDcTHREE THOUSANDcFOUR THOUSANDcFIVE THO
USANDcSIX THOUSANDcSEVEN THOUSANDcEIGHT THOUSANDcNINE THOUSANDcTEN THOUSANDcTWENTY THOUSANDcTHIRTY T
HOUSANDcFORTY THOUSANDcFIFTY THOUSANDcSIXTY THOUSANDcSEVENTY THOUSANDcEIGHTY THOUSANDcNINETY THOUSAN
D=10137aAEGEAN WEIGHT BASE UNITcFIRST SUBUNITcSECOND SUBUNITcTHIRD SUBUNITcFOURTH SUBUNITbDRY MEASUR
E FIRST SUBUNITbLIQUID MEASURE FIRST SUBUNITbMEASURE SECOND SUBUNITcTHIRD SUBUNITaGREEK ACROPHONIC A
TTIC ONE QUARTEReHALFeDRACHMAdFIVEdFIFTYdFIVE HUNDREDeTHOUSANDdFIFTY THOUSANDdFIVE TALENTSdTEN TALEN
TSdFIFTY TALENTSdONE HUNDRED TALENTSdFIVE HUNDRED TALENTSdONE THOUSAND TALENTSdFIVE THOUSAND TALENTS
eSTATERSdTEN STATERSdFIFTY STATERSdONE HUNDRED STATERSdFIVE HUNDRED STATERSdONE THOUSAND STATERSdTE
N THOUSAND STATERSdFIFTY THOUSAND STATERSdTEN MNAScHERAEUM ONE PLETHRONcTHESPIAN ONEcHERMIONIAN ONEc
EPIDAUREAN TWOcTHESPIAN TWOcCYRENAIC TWO DRACHMAScEPIDAUREAN TWO DRACHMAScTROEZENIAN FIVEdTENdTEN AL
TERNATE FORMcHERMIONIAN TENcMESSENIAN TENcTHESPIAN TENdTHIRTYcTROEZENIAN FIFTYdFIFTY ALTERNATE FORMc
HERMIONIAN FIFTYcTHESPIAN FIFTYdONE HUNDREDdTHREE HUNDREDcEPIDAUREAN FIVE HUNDREDcTROEZENIAN FIVE HU
NDREDcTHESPIAN FIVE HUNDREDcCARYSTIAN FIVE HUNDREDcNAXIAN FIVE HUNDREDcTHESPIAN ONE THOUSANDdFIVE TH
OUSANDcDELPHIC FIVE MNAScSTRATIAN FIFTY MNASbONE HALF SIGNdSIGN ALTERNATE FORMbTWO THIRDS SIGNbTHRE
E QUARTERS SIGNbYEAR SIGNbTALENT SIGNbDRACHMA SIGNbOBOL SIGNbTWO OBOLS SIGNbTHREE OBOLS SIGNbFOUR OB
OLS SIGNbFIVE OBOLS SIGNbMETRETES SIGNbKYATHOS BASE SIGNbLITRA SIGNbOUNKIA SIGNbXESTES SIGNbARTABE S
IGNbAROURA SIGNbGRAMMA SIGNbTRYBLION BASE SIGNbZERO SIGNbONE QUARTER SIGNbSINUSOID SIGNbINDICTION SI
GNaNOMISMA SIGN=10190aROMAN SEXTANS SIGNbUNCIA SIGNbSEMUNCIA SIGNbSEXTULA SIGNbDIMIDIA SEXTULA SIGNb
SILIQUA SIGNbDENARIUS SIGNbQUINARIUS SIGNbSESTERTIUS SIGNbDUPONDIUS SIGNbAS SIGNbCENTURIAL SIGNaASCI
A SYMBOL=101A0aGREEK SYMBOL TAU RHO=101D0aPHAISTOS DISC SIGN PEDESTRIANdPLUMED HEADdTATTOOED HEADdCA
PTIVEdCHILDdWOMANdHELMETdGAUNTLETdTIARAdARROWdBOWdSHIELDdCLUBdMANACLESdMATTOCKdSAWdLIDdBOOMERANGdCAR
PENTRY PLANEdDOLIUMdCOMBdSLINGdCOLUMNdBEEHIVEdSHIPdHORNdHIDEdBULLS LEGdCATdRAMdEAGLEdDOVEdTUNNYdBEEd
PLANE TREEdVINEdPAPYRUSdROSETTEdLILYdOX BACKdFLUTEdGRATERdSTRAINERdSMALL AXEdWAVY BANDdCOMBINING OBL
IQUE STROKE=10280aLYCIAN LETTER AcEcBcBHcGcDcIcWcZcTHcJcKcQcLcMcNcMMcNNcUcPcKKcRcScTcTTcANcENcHcX=10
2A0aCARIAN LETTER AcP2cDcLcUUUcRcLDcA2cQcBcMcOcD2cTcSHcSH2cScC-18cUcNNcXcNcTT2cPcSScIcEcUUUUcKcK2cND
cUUcGcG2cSTcST2cNGcIIcC-39cTTcUUU2cRRcMBcMB2cMB3cMB4cLD2cE2cUUU3=102E0aCOPTIC EPACT THOUSANDS MARKcD
IGIT ONEdTWOdTHREEdFOURdFIVEdSIXdSEVENdEIGHTdNINEcNUMBER TENdTWENTYdTHIRTYdFORTYdFIFTYdSIXTYdSEVENTY
dEIGHTYdNINETYdONE HUNDREDdTWO HUNDREDdTHREE HUNDREDdFOUR HUNDREDdFIVE HUNDREDdSIX HUNDREDdSEVEN HUN
DREDdEIGHT HUNDREDdNINE HUNDRED=10300aOLD ITALIC LETTER AdBEdKEdDEdEdVEdZEdHEdTHEdIdKAdELdEMdENdESHd
OdPEdSHEdKUdERdESdTEdUdEKSdPHEdKHEdEFdERSdCHEdIIdUUdESScNUMERAL ONEdFIVEdTENdFIFTY=1032DaOLD ITALI
C LETTER YEdNORTHERN TSEdSOUTHERN TSEaGOTHIC LETTER AHSAcBAIRKANcGIBAcDAGScAIHVUScQAIRTHRAcIUJAcHAGL
cTHIUTHcEIScKUSMAcLAGUScMANNAcNAUTHScJERcURUScPAIRTHRAcNINETYcRAIDAcSAUILcTEIWScWINJAcFAIHUcIGGWScHW
AIRcOTHALcNINE HUNDRED=10350aOLD PERMIC LETTER ANdBURdGAIdDOIdEdZHOIdDZHOIdZATAdDZITAdIdKOKEdLEIdMEN
OEdNENOEdVOOIdPEEIdREIdSIIdTAIdUdCHERYdSHOOIdSHCHOOIdYRYdYERUdOdOOdEFdHAdTSIUdVERdYERdYERIdYATdIEdYU
dYAdIAaCOMBINING OLD PERMIC LETTER ANeDOIeZATAeNENOEeSII=10380aUGARITIC LETTER ALPAcBETAcGAMLAcKHAcD
ELTAcHOcWOcZETAcHOTAcTETcYODcKAFcSHINcLAMDAcMEMcDHALcNUNcZUcSAMKAcAINcPUcSADEcQOPAcRASHAcTHANNAcGHAI
NcTOcIcUcSSU=1039FaUGARITIC WORD DIVIDERaOLD PERSIAN SIGN AdIdUdKAdKUdGAdGUdXAdCAdJAdJIdTAdTUdDAdDId
DUdTHAdPAdBAdFAdNAdNUdMAdMIdMUdYAdVAdVIdRAdRUdLAdSAdZAdSHAdSSAdHA=103C8aOLD PERSIAN SIGN AURAMAZDAAd
AURAMAZDAA-2dAURAMAZDAAHAdXSHAAYATHIYAdDAHYAAUSHdDAHYAAUSH-2dBAGAdBUUMISHcWORD DIVIDERcNUMBER ONEdTW
OdTENdTWENTYdHUNDRED=10400aDESERET CAPITAL LETTER LONG IeEeAeAHeOeOOdSHORT IeEeAeAHeOeOOdAYdOWdWUdYE
EdHdPEEdBEEdTEEdDEEdCHEEdJEEdKAYdGAYdEFdVEEdETHdTHEEdESdZEEdESHdZHEEdERdELdEMdENdENGdOIdEWbSMALL LET
TER LONG IeEeAeAHeOeOOdSHORT IeEeAeAHeOeOOdAYdOWdWUdYEEdHdPEEdBEEdTEEdDEEdCHEEdJEEdKAYdGAYdEFdVEEdET
HdTHEEdESdZEEdESHdZHEEdERdELdEMdENdENGdOIdEWaSHAVIAN LETTER PEEPcTOTcKICKcFEEcTHIGHcSOcSUREcCHURCHcY
EAcHUNGcBIBcDEADcGAGcVOWcTHEYcZOOcMEASUREcJUDGEcWOEcHA-HAcLOLLcMIMEcIFcEGGcASHcADOcONcWOOLcOUTcAHcRO
ARcNUNcEATcAGEcICEcUPcOAKcOOZEcOILcAWEcAREcORcAIRcERRcARRAYcEARcIANcYEWaOSMANYA LETTER ALEFcBAcTAcJA
cXAcKHAcDEELcRAcSAcSHIINcDHAcCAYNcGAcFAcQAAFcKAAFcLAANcMIINcNUUNcWAWcHAcYAcAcEcIcOcUcAAcEEcOO=104A0a
OSMANYA DIGIT ZEROcONEcTWOcTHREEcFOURcFIVEcSIXcSEVENcEIGHTcNINE=104B0aOSAGE CAPITAL LETTER AdAIdAINd
AHdBRAdCHAdEHCHAdEdEINdHAdHYAdIdKAdEHKAdKYAdLAdMAdNAdOdOINdPAdEHPAdSAdSHAdTAdEHTAdTSAdEHTSAdTSHAdDHA
dUdWAdKHAdGHAdZAdZHA=104D8aOSAGE SMALL LETTER AdAIdAINdAHdBRAdCHAdEHCHAdEdEINdHAdHYAdIdKAdEHKAdKYAdL
AdMAdNAdOdOINdPAdEHPAdSAdSHAdTAdEHTAdTSAdEHTSAdTSHAdDHAdUdWAdKHAdGHAdZAdZHA=10500aELBASAN LETTER AcB
EcCEcCHEcDEcNDEcDHEcEIcEcFEcGEcGJEcHEcIcJEcKEcLEcLLEcMEcNEcNAcNJEcOcPEcQEcREcRREcSEcSHEcTEcTHEcUcVEc
XEcYcZEcZHEcGHEcGHAMMAcKHE=10530aCAUCASIAN ALBANIAN LETTER ALTdBETdGIMdDATdEBdZARLdEYNdZHILdTASdCHAd
YOWDdZHAdIRBdSHAdLANdINYAdXEYNdDYANdCARdJHOXdKARdLYITdHEYTdQAYdAORdCHOYdCHIdCYAYdMAQdQARdNOWCdDZYAYd
SHAKdJAYNdONdTYAYdFAMdDZAYdCHATdPENdGHEYSdRATdSEYKdVEYZdTIWRdSHOYdIWNdCYAWdCAYNdYAYDdPIWRdKIW=1056Fa
CAUCASIAN ALBANIAN CITATION MARKaVITHKUQI CAPITAL LETTER AdBBEdBEdCEdCHEdDEdDHEdEIdEdFEdGA=1057CaVIT
HKUQI CAPITAL LETTER HAdHHAdIdIJEdJEdKAdLAdLLAdMEdNEdNJEdOdPEdQAdRE=1058CaVITHKUQI CAPITAL LETTER SE
dSHEdTEdTHEdUdVEdXE=10594aVITHKUQI CAPITAL LETTER YdZE=10597aVITHKUQI SMALL LETTER AdBBEdBEdCEdCHEdD
EdDHEdEIdEdFEdGA=105A3aVITHKUQI SMALL LETTER HAdHHAdIdIJEdJEdKAdLAdLLAdMEdNEdNJEdOdPEdQAdRE=105B3aVI
THKUQI SMALL LETTER SEdSHEdTEdTHEdUdVEdXE=105BBaVITHKUQI SMALL LETTER YdZE=10600aLINEAR A SIGN AB001
dAB002dAB003dAB004dAB005dAB006dAB007dAB008dAB009dAB010dAB011dAB013dAB016dAB017dAB020dAB021dAB021FdAB
021MdAB022dAB022FdAB022MdAB023dAB023MdAB024dAB026dAB027dAB028dA028BdAB029dAB030dAB031dAB034dAB037dAB
038dAB039dAB040dAB041dAB044dAB045dAB046dAB047dAB048dAB049dAB050dAB051dAB053dAB054dAB055dAB056dAB057d
AB058dAB059dAB060dAB061dAB065dAB066dAB067dAB069dAB070dAB073dAB074dAB076dAB077dAB078dAB079dAB080dAB08
1dAB082dAB085dAB086dAB087dA100-102dAB118dAB120dA120BdAB122dAB123dAB131AdAB131BdA131CdAB164dAB171dAB1
80dAB188dAB191dA301dA302dA303dA304dA305dA306dA307dA308dA309AdA309BdA309CdA310dA311dA312dA313AdA313Bd
A313CdA314dA315dA316dA317dA318dA319dA320dA321dA322dA323dA324dA325dA326dA327dA328dA329dA330dA331dA332
dA333dA334dA335dA336dA337dA338dA339dA340dA341dA342dA343dA344dA345dA346dA347dA348dA349dA350dA351dA352
dA353dA354dA355dA356dA357dA358dA359dA360dA361dA362dA363dA364dA365dA366dA367dA368dA369dA370dA371dA400
-VASdA401-VASdA402-VASdA403-VASdA404-VASdA405-VASdA406-VASdA407-VASdA408-VASdA409-VASdA410-VASdA411-
VASdA412-VASdA413-VASdA414-VASdA415-VASdA416-VASdA417-VASdA418-VASdA501dA502dA503dA504dA505dA506dA50
8dA509dA510dA511dA512dA513dA515dA516dA520dA521dA523dA524dA525dA526dA527dA528dA529dA530dA531dA532dA53
4dA535dA536dA537dA538dA539dA540dA541dA542dA545dA547dA548dA549dA550dA551dA552dA553dA554dA555dA556dA55
7dA559dA563dA564dA565dA566dA568dA569dA570dA571dA572dA573dA574dA575dA576dA577dA578dA579dA580dA581dA58
2dA583dA584dA585dA586dA587dA588dA589dA591dA592dA594dA595dA596dA598dA600dA601dA602dA603dA604dA606dA60
8dA609dA610dA611dA612dA613dA614dA615dA616dA617dA618dA619dA620dA621dA622dA623dA624dA626dA627dA628dA62
9dA634dA637dA638dA640dA642dA643dA644dA645dA646dA648dA649dA651dA652dA653dA654dA655dA656dA657dA658dA65
9dA660dA661dA662dA663dA664=10740aLINEAR A SIGN A701 AdA702 BdA703 DdA704 EdA705 FdA706 HdA707 JdA70
8 KdA709 LdA709-2 L2e3 L3e4 L4e6 L6dA710 WdA711 XdA712 YdA713 OMEGAdA714 ABBdA715 BBdA717 DDdA726 EY
YYdA732 JE=10760aLINEAR A SIGN A800dA801dA802dA803dA804dA805dA806dA807=10780aMODIFIER LETTER SMALL C
APITAL AAcSUPERSCRIPT TRIANGULAR COLONdHALF TRIANGULAR COLONcSMALL AEdCAPITAL BdB WITH HOOK=10787aMO
DIFIER LETTER SMALL DZ DIGRAPHeDIGRAPH WITH RETROFLEX HOOKgCURLdDEZH DIGRAPHdD WITH TAILfHOOKfHOOK A
ND TAILdREVERSED EdCLOSED REVERSED OPEN EdFENG DIGRAPHdRAMS HORNdCAPITAL GdG WITH HOOKdCAPITAL G WIT
H HOOKdH WITH STROKEdCAPITAL HdHENG WITH HOOKdDOTLESS J WITH STROKE AND HOOKdLS DIGRAPHdLZ DIGRAPHd
L WITH BELTdCAPITAL L WITH BELTdL WITH RETROFLEX HOOK AND BELTdLEZHdLEZH WITH RETROFLEX HOOKdTURNE
D YeY WITH BELTdO WITH STROKEdCAPITAL OEdCLOSED OMEGAdQdTURNED R WITH LONG LEGhLEG AND RETROFLEX HOO
KdR WITH TAILfFISHHOOKdCAPITAL RdTC DIGRAPH WITH CURLdTS DIGRAPHeDIGRAPH WITH RETROFLEX HOOKdTESH DI
GRAPHdT WITH RETROFLEX HOOKdV WITH RIGHT HOOK=107B2aMODIFIER LETTER SMALL CAPITAL YcGLOTTAL STOP WIT
H STROKEcREVERSED GLOTTAL STOP WITH STROKEcBILABIAL CLICKcDENTAL CLICKcLATERAL CLICKcALVEOLAR CLICKc
RETROFLEX CLICK WITH RETROFLEX HOOKcSMALL S WITH CURL=10800aCYPRIOT SYLLABLE AcEcIcOcUcJA=10808aCYPR
IOT SYLLABLE JO=1080AaCYPRIOT SYLLABLE KAcKEcKIcKOcKUcLAcLEcLIcLOcLUcMAcMEcMIcMOcMUcNAcNEcNIcNOcNUcP
AcPEcPIcPOcPUcRAcREcRIcROcRUcSAcSEcSIcSOcSUcTAcTEcTIcTOcTUcWAcWEcWIcWO=10837aCYPRIOT SYLLABLE XAcXE=
1083CaCYPRIOT SYLLABLE ZA=1083FaCYPRIOT SYLLABLE ZOaIMPERIAL ARAMAIC LETTER ALEPHdBETHdGIMELdDALETHd
HEdWAWdZAYINdHETHdTETHdYODHdKAPHdLAMEDHdMEMdNUNdSAMEKHdAYINdPEdSADHEdQOPHdRESHdSHINdTAW=10857aIMPERI
AL ARAMAIC SECTION SIGNcNUMBER ONEdTWOdTHREEdTENdTWENTYdONE HUNDREDeTHOUSANDdTEN THOUSANDaPALMYREN
E LETTER ALEPHcBETHcGIMELcDALETHcHEcWAWcZAYINcHETHcTETHcYODHcKAPHcLAMEDHcMEMcFINAL NUNcNUNcSAMEKHcAY
INcPEcSADHEcQOPHcRESHcSHINcTAWbLEFT-POINTING FLEURONbRIGHT-POINTING FLEURONbNUMBER ONEcTWOcTHREEcFOU
RcFIVEcTENcTWENTYaNABATAEAN LETTER FINAL ALEPHcALEPHcFINAL BETHcBETHcGIMELcDALETHcFINAL HEcHEcWAWcZA
YINcHETHcTETHcFINAL YODHcYODHcFINAL KAPHcKAPHcFINAL LAMEDHcLAMEDHcFINAL MEMcMEMcFINAL NUNcNUNcSAMEKH
cAYINcPEcSADHEcQOPHcRESHcFINAL SHINcSHINcTAW=108A7aNABATAEAN NUMBER ONEcTWOcTHREEcFOURbCRUCIFORM NUM
BER FOURbNUMBER FIVEcTENcTWENTYcONE HUNDRED=108E0aHATRAN LETTER ALEPHcBETHcGIMELcDALETH-RESHcHEcWAWc
ZAYNcHETHcTETHcYODHcKAPHcLAMEDHcMEMcNUNcSAMEKHcAYNcPEcSADHEcQOPH=108F4aHATRAN LETTER SHINcTAW=108FBa
HATRAN NUMBER ONEcFIVEcTENcTWENTYcONE HUNDREDaPHOENICIAN LETTER ALFcBETcGAMLcDELTcHEcWAUcZAIcHETcTET
cYODcKAFcLAMDcMEMcNUNcSEMKcAINcPEcSADEcQOFcROSHcSHINcTAUbNUMBER ONEcTENcTWENTYcONE HUNDREDcTWOcTHREE
=1091FaPHOENICIAN WORD SEPARATORaLYDIAN LETTER AcBcGcDcEcVcIcYcKcLcMcNcOcRcSScTcUcFcQcScTTcANcENcLYc
NNcC=1093FaLYDIAN TRIANGULAR MARK=10980aMEROITIC HIEROGLYPHIC LETTER AdEdIdOdYAdWAdBAdBA-2dPAdMAdNAd
NA-2dNEdNE-2dRAdRA-2dLAdKHAdHHAdSAdSA-2dSEdKAdQAdTAdTA-2dTEdTE-2dTOdDAcSYMBOL VIDJdVIDJ-2bCURSIVE LE
TTER AdEdIdOdYAdWAdBAdPAdMAdNAdNEdRAdLAdKHAdHHAdSAdARCHAIC SAdSEdKAdQAdTAdTEdTOdDA=109BCaMEROITIC CU
RSIVE FRACTION ELEVEN TWELFTHSdONE HALFcLOGOGRAM RMTdIMNcNUMBER ONEdTWOdTHREEdFOURdFIVEdSIXdSEVENdEI
GHTdNINEdTENdTWENTYdTHIRTYdFORTYdFIFTYdSIXTYdSEVENTY=109D2aMEROITIC CURSIVE NUMBER ONE HUNDREDdTWO H
UNDREDdTHREE HUNDREDdFOUR HUNDREDdFIVE HUNDREDdSIX HUNDREDdSEVEN HUNDREDdEIGHT HUNDREDdNINE HUNDREDd
ONE THOUSANDdTWO THOUSANDdTHREE THOUSANDdFOUR THOUSANDdFIVE THOUSANDdSIX THOUSANDdSEVEN THOUSANDdEIG
HT THOUSANDdNINE THOUSANDdTEN THOUSANDdTWENTY THOUSANDdTHIRTY THOUSANDdFORTY THOUSANDdFIFTY THOUSAND
dSIXTY THOUSANDdSEVENTY THOUSANDdEIGHTY THOUSANDdNINETY THOUSANDdONE HUNDRED THOUSANDdTWO HUNDRED TH
OUSANDdTHREE HUNDRED THOUSANDdFOUR HUNDRED THOUSANDdFIVE HUNDRED THOUSANDdSIX HUNDRED THOUSANDdSEVE
N HUNDRED THOUSANDdEIGHT HUNDRED THOUSANDdNINE HUNDRED THOUSANDcFRACTION ONE TWELFTHdTWO TWELFTHSdTH
REE TWELFTHSdFOUR TWELFTHSdFIVE TWELFTHSdSIX TWELFTHSdSEVEN TWELFTHSdEIGHT TWELFTHSdNINE TWELFTHSdTE
N TWELFTHSaKHAROSHTHI LETTER AbVOWEL SIGN IdUdVOCALIC R=10A05aKHAROSHTHI VOWEL SIGN EdO=10A0CaKHAROS
HTHI VOWEL LENGTH MARKbSIGN DOUBLE RING BELOWcANUSVARAcVISARGAbLETTER KAcKHAcGAcGHA=10A15aKHAROSHTH
I LETTER CAcCHAcJA=10A19aKHAROSHTHI LETTER NYAcTTAcTTHAcDDAcDDHAcNNAcTAcTHAcDAcDHAcNAcPAcPHAcBAcBHAc
MAcYAcRAcLAcVAcSHAcSSAcSAcZAcHAcKKAcTTTHAcTTTAcVHA=10A38aKHAROSHTHI SIGN BAR ABOVEcCAUDAcDOT BELOW=1
0A3FaKHAROSHTHI VIRAMAbDIGIT ONEcTWOcTHREEcFOURbNUMBER TENcTWENTYcONE HUNDREDdTHOUSANDbFRACTION ON
E HALF=10A50aKHAROSHTHI PUNCTUATION DOTcSMALL CIRCLEcCIRCLEcCRESCENT BARcMANGALAMcLOTUScDANDAcDOUBL
E DANDAcLINES=10A60aOLD SOUTH ARABIAN LETTER HEeLAMEDHeHETHeMEMeQOPHeWAWeSHINeRESHeBETHeTAWeSATeKAPH
eNUNeKHETHeSADHEeSAMEKHeFEeALEFeAYNeDHADHEeGIMELeDALETHeGHAYNeTETHeZAYNeDHALETHeYODHeTHAWeTHETHdNUMB
ER ONEeFIFTYdNUMERIC INDICATORbNORTH ARABIAN LETTER HEHeLAMeHAHeMEEMeQAFeWAWeES-2eREHeBEHeTEHeES-1eK
AFeNOONeKHAHeSADeES-3eFEHeALEFeAINeDADeGEEMeDALeGHAINeTAHeZAINeTHALeYEHeTHEHeZAHdNUMBER ONEeTENeTWEN
TY=10AC0aMANICHAEAN LETTER ALEPHcBETHcBHETHcGIMELcGHIMELcDALETHcHEcWAWbSIGN UDbLETTER ZAYINcZHAYINcJ
AYINcJHAYINcHETHcTETHcYODHcKAPHcXAPHcKHAPHcLAMEDHcDHAMEDHcTHAMEDHcMEMcNUNcSAMEKHcAYINcAAYINcPEcFEcSA
DHEcQOPHcXOPHcQHOPHcRESHcSHINcSSHINcTAWbABBREVIATION MARK ABOVEdBELOW=10AEBaMANICHAEAN NUMBER ONEcFI
VEcTENcTWENTYcONE HUNDREDbPUNCTUATION STARcFLEURONcDOUBLE DOT WITHIN DOTcDOT WITHIN DOTcDOTcTWO DOTS
cLINE FILLER=10B00aAVESTAN LETTER AcAAcAOcAAOcANcAANcAEcAEEcEcEEcOcOOcIcIIcUcUUcKEcXEcXYEcXVEcGEcGGE
cGHEcCEcJEcTEcTHEcDEcDHEcTTEcPEcFEcBEcBHEcNGEcNGYEcNGVEcNEcNYEcNNEcMEcHMEcYYEcYEcVEcREcLEcSEcZEcSHEc
ZHEcSHYEcSSHEcHE=10B39aAVESTAN ABBREVIATION MARKaTINY TWO DOTS OVER ONE DOT PUNCTUATIONaSMALL TWO DO
TS OVER ONE DOT PUNCTUATIONaLARGE TWO DOTS OVER ONE DOT PUNCTUATIONbONE DOT OVER TWO DOTS PUNCTUATIO
NbTWO RINGS OVER ONE RING PUNCTUATIONbONE RING OVER TWO RINGS PUNCTUATIONaINSCRIPTIONAL PARTHIAN LET
TER ALEPHdBETHdGIMELdDALETHdHEdWAWdZAYINdHETHdTETHdYODHdKAPHdLAMEDHdMEMdNUNdSAMEKHdAYINdPEdSADHEdQOP
HdRESHdSHINdTAW=10B58aINSCRIPTIONAL PARTHIAN NUMBER ONEdTWOdTHREEdFOURdTENdTWENTYdONE HUNDREDeTHOUSA
NDbPAHLAVI LETTER ALEPHdBETHdGIMELdDALETHdHEdWAW-AYIN-RESHdZAYINdHETHdTETHdYODHdKAPHdLAMEDHdMEM-QOPH
dNUNdSAMEKHdPEdSADHEdSHINdTAW=10B78aINSCRIPTIONAL PAHLAVI NUMBER ONEdTWOdTHREEdFOURdTENdTWENTYdONE H
UNDREDeTHOUSANDaPSALTER PAHLAVI LETTER ALEPHdBETHdGIMELdDALETHdHEdWAW-AYIN-RESHdZAYINdHETHdYODHdKAPH
dLAMEDHdMEM-QOPHdNUNdSAMEKHdPEdSADHEdSHINdTAW=10B99aPSALTER PAHLAVI SECTION MARKcTURNED SECTION MARK
cFOUR DOTS WITH CROSSfDOT=10BA9aPSALTER PAHLAVI NUMBER ONEdTWOdTHREEdFOURdTENdTWENTYdONE HUNDRED=10C
00aOLD TURKIC LETTER ORKHON AdYENISEI AeAEdORKHON IdYENISEI IeEdORKHON OeOEdYENISEI OEdORKHON ABdYEN
ISEI ABdORKHON AEBdYENISEI AEBdORKHON AGdYENISEI AGdORKHON AEGdYENISEI AEGdORKHON ADdYENISEI ADdORKH
ON AEDeEZdYENISEI EZdORKHON AYdYENISEI AYdORKHON AEYdYENISEI AEYdORKHON AEKdYENISEI AEKdORKHON OEKdY
ENISEI OEKdORKHON ALdYENISEI ALdORKHON AELeELTeEMeANeAENdYENISEI AENdORKHON ENTdYENISEI ENTdORKHON E
NCdYENISEI ENCdORKHON ENYdYENISEI ENYeANGdORKHON ENGdYENISEI AENGdORKHON EPeOPeICeECdYENISEI ECdORKH
ON AQdYENISEI AQdORKHON IQdYENISEI IQdORKHON OQdYENISEI OQdORKHON ARdYENISEI ARdORKHON AEReASeAESeAS
HdYENISEI ASHdORKHON ESHdYENISEI ESHdORKHON ATdYENISEI ATdORKHON AETdYENISEI AETdORKHON OTeBASH=10C8
0aOLD HUNGARIAN CAPITAL LETTER AeAAeEBeAMBeECeENCeECSeEDeANDeEeCLOSE EeEEeEFeEGeEGYeEHeIeIIeEJeEKeAK
eUNKeELeELYeEMeENeENYeOeOOeNIKOLSBURG OEeRUDIMENTA OEeOEEeEPeEMPeEReSHORT EReESeESZeETeENTeETYeECHeU
eUUeNIKOLSBURG UEeRUDIMENTA UEeEVeEZeEZSeENT-SHAPED SIGNeUS=10CC0aOLD HUNGARIAN SMALL LETTER AeAAeEB
eAMBeECeENCeECSeEDeANDeEeCLOSE EeEEeEFeEGeEGYeEHeIeIIeEJeEKeAKeUNKeELeELYeEMeENeENYeOeOOeNIKOLSBUR
G OEeRUDIMENTA OEeOEEeEPeEMPeEReSHORT EReESeESZeETeENTeETYeECHeUeUUeNIKOLSBURG UEeRUDIMENTA UEeEVeEZ
eEZSeENT-SHAPED SIGNeUS=10CFAaOLD HUNGARIAN NUMBER ONEdFIVEdTENdFIFTYdONE HUNDREDeTHOUSANDaHANIFI RO
HINGYA LETTER AdBAdPAdTAdTTAdJAdCAdHAdKHAdFAdDAdDDAdRAdRRAdZAdSAdSHAdKAdGAdLAdMAdNAdWAdKINNA WAdYAdK
INNA YAdNGAdNYAdVAcVOWEL AdIdUdEdOcMARK SAKINdNA KHONNAcSIGN HARBAHAYdTAHALAdTANAdTASSI=10D30aHANIF
I ROHINGYA DIGIT ZEROdONEdTWOdTHREEdFOURdFIVEdSIXdSEVENdEIGHTdNINE=10E60aRUMI DIGIT ONEcTWOcTHREEcFO
URcFIVEcSIXcSEVENcEIGHTcNINEbNUMBER TENcTWENTYcTHIRTYcFORTYcFIFTYcSIXTYcSEVENTYcEIGHTYcNINETYcONE HU
NDREDcTWO HUNDREDcTHREE HUNDREDcFOUR HUNDREDcFIVE HUNDREDcSIX HUNDREDcSEVEN HUNDREDcEIGHT HUNDREDcNI
NE HUNDREDbFRACTION ONE HALFdQUARTERdTHIRDcTWO THIRDS=10E80aYEZIDI LETTER ELIFcBEcPEcPHEcTHEcSEcCIMc
CHIMcCHHIMcHHAcXAcDALcZALcRAcRHAcZAcJAcSINcSHINcSADcDADcTAcZEcEYNcXHEYNcFAcVAcVA ALTERNATE FORMcQAFc
KAFcKHAFcGAFcLAMcMIMcNUNcUMcWAWcOWcEWcHAYcYOTcET=10EABaYEZIDI COMBINING HAMZA MARKcMADDA MARKbHYPHEN
ATION MARK=10EB0aYEZIDI LETTER LAM WITH DOT ABOVEcYOT WITH CIRCUMFLEX ABOVE=10F00aOLD SOGDIAN LETTE
R ALEPHdFINAL ALEPHdBETHdFINAL BETHdGIMELdHEdFINAL HEdWAWdZAYINdHETHdYODHdKAPHdLAMEDHdMEMdNUNdFINA
L NUNeNUN WITH VERTICAL TAILdSAMEKHdAYINdALTERNATE AYINdPEdSADHEdFINAL SADHEeSADHE WITH VERTICAL TAI
LdRESH-AYIN-DALETHdSHINdTAWdFINAL TAWeTAW WITH VERTICAL TAILcNUMBER ONEdTWOdTHREEdFOURdFIVEdTENdTWEN
TYdTHIRTYdONE HUNDREDcFRACTION ONE HALFcLIGATURE AYIN-DALETH=10F30aSOGDIAN LETTER ALEPHcBETHcGIMELcH
EcWAWcZAYINcHETHcYODHcKAPHcLAMEDHcMEMcNUNcSAMEKHcAYINcPEcSADHEcRESH-AYINcSHINcTAWcFETHcLESHbINDEPEND
ENT SHINbCOMBINING DOT BELOWcTWO DOTS BELOWcDOT ABOVEcTWO DOTS ABOVEcCURVE ABOVEdBELOWcHOOK ABOVEdBE
LOWcLONG HOOK BELOWcRESH BELOWcSTROKE BELOWbNUMBER ONEcTENcTWENTYcONE HUNDREDbPUNCTUATION TWO VERTIC
AL BARSeBARS WITH DOTScCIRCLE WITH DOTcTWO CIRCLES WITH DOTScHALF CIRCLE WITH DOT=10F70aOLD UYGHUR L
ETTER ALEPHdBETHdGIMEL-HETHdWAWdZAYINdFINAL HETHdYODHdKAPHdLAMEDHdMEMdNUNdSAMEKHdPEdSADHEdRESHdSHINd
TAWdLESHcCOMBINING DOT ABOVEeBELOWdTWO DOTS ABOVEfBELOWcPUNCTUATION BARdTWO BARSeDOTSdFOUR DOTS=10FB
0aCHORASMIAN LETTER ALEPHcSMALL ALEPHcBETHcGIMELcDALETHcHEcWAWcCURLED WAWcZAYINcHETHcYODHcKAPHcLAMED
HcMEMcNUNcSAMEKHcAYINcPEcRESHcSHINcTAWbNUMBER ONEcTWOcTHREEcFOURcTENcTWENTYcONE HUNDRED=10FE0aELYMAI
C LETTER ALEPHcBETHcGIMELcDALETHcHEcWAWcZAYINcHETHcTETHcYODHcKAPHcLAMEDHcMEMcNUNcSAMEKHcAYINcPEcSADH
EcQOPHcRESHcSHINcTAWbLIGATURE ZAYIN-YODH=11000aBRAHMI SIGN CANDRABINDUcANUSVARAcVISARGAcJIHVAMULIYAc
UPADHMANIYAbLETTER AcAAcIcIIcUcUUcVOCALIC RdRRdLdLLcEcAIcOcAUcKAcKHAcGAcGHAcNGAcCAcCHAcJAcJHAcNYAcTT
AcTTHAcDDAcDDHAcNNAcTAcTHAcDAcDHAcNAcPAcPHAcBAcBHAcMAcYAcRAcLAcVAcSHAcSSAcSAcHAcLLAcOLD TAMIL LLLAeR
RAeNNNAbVOWEL SIGN AAdBHATTIPROLU AAdIdIIdUdUUdVOCALIC ReRReLeLLdEdAIdOdAUbVIRAMAbDANDAbDOUBLE DANDA
bPUNCTUATION DOTcDOUBLE DOTcLINEcCRESCENT BARcLOTUS=11052aBRAHMI NUMBER ONEcTWOcTHREEcFOURcFIVEcSIXc
SEVENcEIGHTcNINEcTENcTWENTYcTHIRTYcFORTYcFIFTYcSIXTYcSEVENTYcEIGHTYcNINETYcONE HUNDREDdTHOUSANDbDIGI
T ZEROcONEcTWOcTHREEcFOURcFIVEcSIXcSEVENcEIGHTcNINEbSIGN OLD TAMIL VIRAMAbLETTER OLD TAMIL SHORT EfO
bVOWEL SIGN OLD TAMIL SHORT EgObLETTER OLD TAMIL LLA=1107FaBRAHMI NUMBER JOINERaKAITHI SIGN CANDRABI
NDUcANUSVARAcVISARGAbLETTER AcAAcIcIIcUcUUcEcAIcOcAUcKAcKHAcGAcGHAcNGAcCAcCHAcJAcJHAcNYAcTTAcTTHAcDD
AcDDDHAcDDHAcRHAcNNAcTAcTHAcDAcDHAcNAcPAcPHAcBAcBHAcMAcYAcRAcLAcVAcSHAcSSAcSAcHAbVOWEL SIGN AAdIdIId
UdUUdEdAIdOdAUbSIGN VIRAMAcNUKTAbABBREVIATION SIGNbENUMERATION SIGNbNUMBER SIGNbSECTION MARKbDOUBL
E SECTION MARKbDANDAbDOUBLE DANDAbVOWEL SIGN VOCALIC R=110CDaKAITHI NUMBER SIGN ABOVE=110D0aSORA SOM
PENG LETTER SAHdTAHdBAHdCAHdDAHdGAHdMAHdNGAHdLAHdNAHdVAHdPAHdYAHdRAHdHAHdKAHdJAHdNYAHdAHdEEHdIHdUHdO
HdEHdMAE=110F0aSORA SOMPENG DIGIT ZEROdONEdTWOdTHREEdFOURdFIVEdSIXdSEVENdEIGHTdNINE=11100aCHAKMA SIG
N CANDRABINDUcANUSVARAcVISARGAbLETTER AAcIcUcEcKAAcKHAAcGAAcGHAAcNGAAcCAAcCHAAcJAAcJHAAcNYAAcTTAAcTT
HAAcDDAAcDDHAAcNNAAcTAAcTHAAcDAAcDHAAcNAAcPAAcPHAAcBAAcBHAAcMAAcYYAAcYAAcRAAcLAAcWAAcSAAcHAAbVOWEL S
IGN AdIdIIdUdUUdEdAIdOdAUdOIbO MARKbAU MARKbVIRAMAbMAAYYAA=11136aCHAKMA DIGIT ZEROcONEcTWOcTHREEcFOU
RcFIVEcSIXcSEVENcEIGHTcNINEbSECTION MARKbDANDAbDOUBLE DANDAbQUESTION MARKbLETTER LHAAbVOWEL SIGN AAd
EIbLETTER VAA=11150aMAHAJANI LETTER AcIcUcEcOcKAcKHAcGAcGHAcCAcCHAcJAcJHAcNYAcTTAcTTHAcDDAcDDHAcNNAc
TAcTHAcDAcDHAcNAcPAcPHAcBAcBHAcMAcRAcLAcVAcSAcHAcRRAbSIGN NUKTAbABBREVIATION SIGNbSECTION MARKbLIGAT
URE SHRI=11180aSHARADA SIGN CANDRABINDUcANUSVARAcVISARGAbLETTER AcAAcIcIIcUcUUcVOCALIC RdRRdLdLLcEcA
IcOcAUcKAcKHAcGAcGHAcNGAcCAcCHAcJAcJHAcNYAcTTAcTTHAcDDAcDDHAcNNAcTAcTHAcDAcDHAcNAcPAcPHAcBAcBHAcMAcY
AcRAcLAcLLAcVAcSHAcSSAcSAcHAbVOWEL SIGN AAdIdIIdUdUUdVOCALIC ReRReLeLLdEdAIdOdAUbSIGN VIRAMAcAVAGRAH
AcJIHVAMULIYAcUPADHMANIYAbOMbDANDAbDOUBLE DANDAbABBREVIATION SIGNbSEPARATORbSANDHI MARKbSIGN NUKTAbV
OWEL MODIFIER MARKbEXTRA SHORT VOWEL MARKbSUTRA MARKbVOWEL SIGN PRISHTHAMATRA EbSIGN INVERTED CANDRA
BINDUbDIGIT ZEROcONEcTWOcTHREEcFOURcFIVEcSIXcSEVENcEIGHTcNINEbEKAMbSIGN SIDDHAMbHEADSTROKEbCONTINUAT
ION SIGNbSECTION MARK-1d2=111E1aSINHALA ARCHAIC DIGIT ONEdTWOdTHREEdFOURdFIVEdSIXdSEVENdEIGHTdNINEcN
UMBER TENdTWENTYdTHIRTYdFORTYdFIFTYdSIXTYdSEVENTYdEIGHTYdNINETYdONE HUNDREDeTHOUSAND=11200aKHOJKI LE
TTER AcAAcIcUcEcAIcOcAUcKAcKHAcGAcGGAcGHAcNGAcCAcCHAcJAcJJA=11213aKHOJKI LETTER NYAcTTAcTTHAcDDAcDDH
AcNNAcTAcTHAcDAcDDDAcDHAcNAcPAcPHAcBAcBBAcBHAcMAcYAcRAcLAcVAcSAcHAcLLAbVOWEL SIGN AAdIdIIdUdEdAIdOdA
UbSIGN ANUSVARAcVIRAMAcNUKTAcSHADDAbDANDAbDOUBLE DANDAbWORD SEPARATORbSECTION MARKbDOUBLE SECTION MA
RKbABBREVIATION SIGNbSIGN SUKUN=11280aMULTANI LETTER AcIcUcEcKAcKHAcGA=11288aMULTANI LETTER GHA=1128
AaMULTANI LETTER CAcCHAcJAcJJA=1128FaMULTANI LETTER NYAcTTAcTTHAcDDAcDDDAcDDHAcNNAcTAcTHAcDAcDHAcNAc
PAcPHAcBA=1129FaMULTANI LETTER BHAcMAcYAcRAcLAcVAcSAcHAcRRAcRHAbSECTION MARK=112B0aKHUDAWADI LETTE
R AcAAcIcIIcUcUUcEcAIcOcAUcKAcKHAcGAcGGAcGHAcNGAcCAcCHAcJAcJJAcJHAcNYAcTTAcTTHAcDDAcDDDAcRRAcDDHAcNN
AcTAcTHAcDAcDHAcNAcPAcPHAcBAcBBAcBHAcMAcYAcRAcLAcVAcSHAcSAcHAbSIGN ANUSVARAbVOWEL SIGN AAdIdIIdUdUUd
EdAIdOdAUbSIGN NUKTAcVIRAMA=112F0aKHUDAWADI DIGIT ZEROcONEcTWOcTHREEcFOURcFIVEcSIXcSEVENcEIGHTcNINE=
11300aGRANTHA SIGN COMBINING ANUSVARA ABOVEcCANDRABINDUcANUSVARAcVISARGA=11305aGRANTHA LETTER AcAAcI
cIIcUcUUcVOCALIC RdL=1130FaGRANTHA LETTER EEcAI=11313aGRANTHA LETTER OOcAUcKAcKHAcGAcGHAcNGAcCAcCHAc
JAcJHAcNYAcTTAcTTHAcDDAcDDHAcNNAcTAcTHAcDAcDHAcNA=1132AaGRANTHA LETTER PAcPHAcBAcBHAcMAcYAcRA=11332a
GRANTHA LETTER LAcLLA=11335aGRANTHA LETTER VAcSHAcSSAcSAcHA=1133BaCOMBINING BINDU BELOWaGRANTHA SIG
N NUKTAcAVAGRAHAbVOWEL SIGN AAdIdIIdUdUUdVOCALIC ReRR=11347aGRANTHA VOWEL SIGN EEdAI=1134BaGRANTHA V
OWEL SIGN OOdAUbSIGN VIRAMA=11350aGRANTHA OM=11357aGRANTHA AU LENGTH MARK=1135DaGRANTHA SIGN PLUTAbL
ETTER VEDIC ANUSVARAdDOUBLE ANUSVARAcVOCALIC RRdLLbVOWEL SIGN VOCALIC LeLL=11366aCOMBINING GRANTHA D
IGIT ZEROdONEdTWOdTHREEdFOURdFIVEdSIX=11370aCOMBINING GRANTHA LETTER AdKAdNAdVIdPA=11400aNEWA LETTE
R AcAAcIcIIcUcUUcVOCALIC RdRRdLdLLcEcAIcOcAUcKAcKHAcGAcGHAcNGAcNGHAcCAcCHAcJAcJHAcNYAcNYHAcTTAcTTHAc
DDAcDDHAcNNAcTAcTHAcDAcDHAcNAcNHAcPAcPHAcBAcBHAcMAcMHAcYAcRAcRHAcLAcLHAcWAcSHAcSSAcSAcHAbVOWEL SIG
N AAdIdIIdUdUUdVOCALIC ReRReLeLLdEdAIdOdAUbSIGN VIRAMAcCANDRABINDUcANUSVARAcVISARGAcNUKTAcAVAGRAHAcF
INAL ANUSVARAbOMbSIDDHIbDANDAbDOUBLE DANDAbCOMMAbGAP FILLERbABBREVIATION SIGNbDIGIT ZEROcONEcTWOcTHR
EEcFOURcFIVEcSIXcSEVENcEIGHTcNINEbDOUBLE COMMAbPLACEHOLDER MARK=1145DaNEWA INSERTION SIGNbSANDHI MAR
KbLETTER VEDIC ANUSVARAbSIGN JIHVAMULIYAcUPADHMANIYA=11480aTIRHUTA ANJIbLETTER AcAAcIcIIcUcUUcVOCALI
C RdRRdLdLLcEcAIcOcAUcKAcKHAcGAcGHAcNGAcCAcCHAcJAcJHAcNYAcTTAcTTHAcDDAcDDHAcNNAcTAcTHAcDAcDHAcNAcPAc
PHAcBAcBHAcMAcYAcRAcLAcVAcSHAcSSAcSAcHAbVOWEL SIGN AAdIdIIdUdUUdVOCALIC ReRReLeLLdEdSHORT EdAIdOdSHO
RT OdAUbSIGN CANDRABINDUcANUSVARAcVISARGAcVIRAMAcNUKTAcAVAGRAHAbGVANGbABBREVIATION SIGNbOM=114D0aTIR
HUTA DIGIT ZEROcONEcTWOcTHREEcFOURcFIVEcSIXcSEVENcEIGHTcNINE=11580aSIDDHAM LETTER AcAAcIcIIcUcUUcVOC
ALIC RdRRdLdLLcEcAIcOcAUcKAcKHAcGAcGHAcNGAcCAcCHAcJAcJHAcNYAcTTAcTTHAcDDAcDDHAcNNAcTAcTHAcDAcDHAcNAc
PAcPHAcBAcBHAcMAcYAcRAcLAcVAcSHAcSSAcSAcHAbVOWEL SIGN AAdIdIIdUdUUdVOCALIC ReRR=115B8aSIDDHAM VOWE
L SIGN EdAIdOdAUbSIGN CANDRABINDUcANUSVARAcVISARGAcVIRAMAcNUKTAcSIDDHAMbDANDAbDOUBLE DANDAbSEPARATO
R DOTcBARbREPETITION MARK-1d2d3bEND OF TEXT MARKbSECTION MARK WITH TRIDENT AND U-SHAPED ORNAMENTSgDO
TTED CRESCENTSeRAYS AND DOTTED CRESCENTShDOUBLE CRESCENTShTRIPLE CRESCENTSdDOUBLE RINGeRING WITH RAY
SdWITH DOUBLE CRESCENTSeTRIPLE CRESCENTSeQUADRUPLE CRESCENTSeSEPTUPLE CRESCENTSeCIRCLES AND RAYSgTW
O ENCLOSURESgFOUR ENCLOSURESbLETTER THREE-CIRCLE ALTERNATE IcTWO-CIRCLE ALTERNATE IfIIcALTERNATE UbV
OWEL SIGN ALTERNATE UeUU=11600aMODI LETTER AcAAcIcIIcUcUUcVOCALIC RdRRdLdLLcEcAIcOcAUcKAcKHAcGAcGHAc
NGAcCAcCHAcJAcJHAcNYAcTTAcTTHAcDDAcDDHAcNNAcTAcTHAcDAcDHAcNAcPAcPHAcBAcBHAcMAcYAcRAcLAcVAcSHAcSSAcSA
cHAcLLAbVOWEL SIGN AAdIdIIdUdUUdVOCALIC ReRReLeLLdEdAIdOdAUbSIGN ANUSVARAcVISARGAcVIRAMAcARDHACANDRA
bDANDAbDOUBLE DANDAbABBREVIATION SIGNbSIGN HUVA=11650aMODI DIGIT ZEROcONEcTWOcTHREEcFOURcFIVEcSIXcSE
VENcEIGHTcNINE=11660aMONGOLIAN BIRGA WITH ORNAMENTbROTATED BIRGAbDOUBLE BIRGA WITH ORNAMENTbTRIPLE B
IRGA WITH ORNAMENTbBIRGA WITH DOUBLE ORNAMENTbROTATED BIRGA WITH ORNAMENTeDOUBLE ORNAMENTbINVERTED B
IRGAcBIRGA WITH DOUBLE ORNAMENTbSWIRL BIRGAcBIRGA WITH ORNAMENTeDOUBLE ORNAMENTbTURNED SWIRL BIRGA W
ITH DOUBLE ORNAMENT=11680aTAKRI LETTER AcAAcIcIIcUcUUcEcAIcOcAUcKAcKHAcGAcGHAcNGAcCAcCHAcJAcJHAcNYAc
TTAcTTHAcDDAcDDHAcNNAcTAcTHAcDAcDHAcNAcPAcPHAcBAcBHAcMAcYAcRAcLAcVAcSHAcSAcHAcRRAbSIGN ANUSVARAcVISA
RGAbVOWEL SIGN AAdIdIIdUdUUdEdAIdOdAUbSIGN VIRAMAcNUKTAbLETTER ARCHAIC KHAbABBREVIATION SIGN=116C0aT
AKRI DIGIT ZEROcONEcTWOcTHREEcFOURcFIVEcSIXcSEVENcEIGHTcNINE=11700aAHOM LETTER KAcKHAcNGAcNAcTAcALTE
RNATE TAcPAcPHAcBAcMAcJAcCHAcTHAcRAcLAcSAcNYAcHAcAcDAcDHAcGAcALTERNATE GAcGHAcBHAcJHAcALTERNATE BA=1
171DaAHOM CONSONANT SIGN MEDIAL LAeRAeLIGATING RAbVOWEL SIGN AdAAdIdIIdUdUUdEdAWdOdAIdAMbSIGN KILLER
=11730aAHOM DIGIT ZEROcONEcTWOcTHREEcFOURcFIVEcSIXcSEVENcEIGHTcNINEbNUMBER TENcTWENTYbSIGN SMALL SEC
TIONcSECTIONcRULAIbSYMBOL VIbLETTER CAcTTAcTTHAcDDAcDDHAcNNAcLLA=11800aDOGRA LETTER AcAAcIcIIcUcUUcE
cAIcOcAUcKAcKHAcGAcGHAcNGAcCAcCHAcJAcJHAcNYAcTTAcTTHAcDDAcDDHAcNNAcTAcTHAcDAcDHAcNAcPAcPHAcBAcBHAcMA
cYAcRAcLAcVAcSHAcSSAcSAcHAcRRAbVOWEL SIGN AAdIdIIdUdUUdVOCALIC ReRRdEdAIdOdAUbSIGN ANUSVARAcVISARGAc
VIRAMAcNUKTAbABBREVIATION SIGN=118A0aWARANG CITI CAPITAL LETTER NGAAeAeWIeYUeYAeYOeIIeUUeEeOeANGeGAe
KOeENYeYUJeUCeENNeODDeTTEeNUNGeDAeATeAMeBUePUeHIYOeHOLOeHORReHAReSSUUeSIIeVIYOcSMALL LETTER NGAAeAeW
IeYUeYAeYOeIIeUUeEeOeANGeGAeKOeENYeYUJeUCeENNeODDeTTEeNUNGeDAeATeAMeBUePUeHIYOeHOLOeHORReHAReSSUUeSI
IeVIYOcDIGIT ZEROdONEdTWOdTHREEdFOURdFIVEdSIXdSEVENdEIGHTdNINEcNUMBER TENdTWENTYdTHIRTYdFORTYdFIFTYd
SIXTYdSEVENTYdEIGHTYdNINETY=118FFaWARANG CITI OMaDIVES AKURU LETTER AdAAdIdIIdUdUUdE=11909aDIVES AKU
RU LETTER O=1190CaDIVES AKURU LETTER KAdKHAdGAdGHAdNGAdCAdCHAdJA=11915aDIVES AKURU LETTER NYAdTTA=11
918aDIVES AKURU LETTER DDAdDDHAdNNAdTAdTHAdDAdDHAdNAdPAdPHAdBAdBHAdMAdYAdYYAdRAdLAdVAdSHAdSSAdSAdHAd
LLAdZAcVOWEL SIGN AAeIeIIeUeUUeE=11937aDIVES AKURU VOWEL SIGN AIeO=1193BaDIVES AKURU SIGN ANUSVARAdC
ANDRABINDUdHALANTAcVIRAMAcPREFIXED NASAL SIGNcMEDIAL YAcINITIAL RAcMEDIAL RAcSIGN NUKTAcDOUBLE DANDA
cGAP FILLERcEND OF TEXT MARK=11950aDIVES AKURU DIGIT ZEROdONEdTWOdTHREEdFOURdFIVEdSIXdSEVENdEIGHTdNI
NE=119A0aNANDINAGARI LETTER AcAAcIcIIcUcUUcVOCALIC RdRR=119AAaNANDINAGARI LETTER EcAIcOcAUcKAcKHAcGA
cGHAcNGAcCAcCHAcJAcJHAcNYAcTTAcTTHAcDDAcDDHAcNNAcTAcTHAcDAcDHAcNAcPAcPHAcBAcBHAcMAcYAcRAcLAcVAcSHAcS
SAcSAcHAcLLAcRRAbVOWEL SIGN AAdIdIIdUdUUdVOCALIC ReRR=119DAaNANDINAGARI VOWEL SIGN EdAIdOdAUbSIGN AN
USVARAcVISARGAcVIRAMAcAVAGRAHAcSIDDHAMbHEADSTROKEbVOWEL SIGN PRISHTHAMATRA E=11A00aZANABAZAR SQUAR
E LETTER AcVOWEL SIGN IeUEeUeEeOEeOeAIeAUeREVERSED IdLENGTH MARKcLETTER KAdKHAdGAdGHAdNGAdCAdCHAdJAd
NYAdTTAdTTHAdDDAdDDHAdNNAdTAdTHAdDAdDHAdNAdPAdPHAdBAdBHAdMAdTSAdTSHAdDZAdDZHAdZHAdZAd-AdYAdRAdLAdVAd
SHAdSSAdSAdHAdKSSAcFINAL CONSONANT MARKcSIGN VIRAMAdCANDRABINDUdCANDRABINDU WITH ORNAMENTdCANDRA WIT
H ORNAMENTdANUSVARAdVISARGAcCLUSTER-INITIAL LETTER RAdFINAL LETTER YAfRAfLAfVAcINITIAL HEAD MARKcCLO
SING HEAD MARKcMARK TSHEGdSHADdDOUBLE SHADdLONG TSHEGcINITIAL DOUBLE-LINED HEAD MARKcCLOSING DOUBLE-
LINED HEAD MARKcSUBJOINER=11A50aSOYOMBO LETTER AbVOWEL SIGN IdUEdUdEdOdOEdAIdAUdVOCALIC ReLcLENGTH M
ARKbLETTER KAcKHAcGAcGHAcNGAcCAcCHAcJAcJHAcNYAcTTAcTTHAcDDAcDDHAcNNAcTAcTHAcDAcDHAcNAcPAcPHAcBAcBHAc
MAcTSAcTSHAcDZAcZHAcZAc-AcYAcRAcLAcVAcSHAcSSAcSAcHAcKSSAbSIGN JIHVAMULIYAcUPADHMANIYAbCLUSTER-INITIA
L LETTER RAeLAeSHAeSAbFINAL CONSONANT SIGN GeKeNGeDeNeBeMeReLeSHeSe-AbSIGN ANUSVARAcVISARGAbGEMINATI
ON MARKbSUBJOINERbMARK TSHEGcSHADcDOUBLE SHADcPLUTAbHEAD MARK WITH MOON AND SUN AND TRIPLE FLAMEiFLA
MEgSUNbTERMINAL MARK-1d2=11AB0aCANADIAN SYLLABICS NATTILIK HIdHIIdHOdHOOdHAdHAAdSHRIdSHRIIdSHROdSHRO
OdSHRAdSHRAAcSPEcSPIcSPOcSPAaPAU CIN HAU LETTER PAeKAeLAeMAeDAeZAeVAeNGAeHAeGAeKHAeSAeBAeCAeTAeTHAeN
AePHAeRAeFAeCHAeAeEeIeOeUeUAeIAeFINAL PfKfTfMfNfLfWfNGfYdRISING TONE LONGeTONEdSANDHI GLOTTAL STOPdR
ISING TONE LONG FINALfFINALdSANDHI GLOTTAL STOP FINALeTONE LONGeTONEeTONE LONG FINALfFINALdMID-LEVE
L TONEdGLOTTAL STOP VARIANTdMID-LEVEL TONE LONG FINALgFINALdLOW-FALLING TONE LONGfTONEdGLOTTAL STOPd
LOW-FALLING TONE LONG FINALgFINALdGLOTTAL STOP FINAL=11C00aBHAIKSUKI LETTER AcAAcIcIIcUcUUcVOCALIC R
dRRdL=11C0AaBHAIKSUKI LETTER EcAIcOcAUcKAcKHAcGAcGHAcNGAcCAcCHAcJAcJHAcNYAcTTAcTTHAcDDAcDDHAcNNAcTAc
THAcDAcDHAcNAcPAcPHAcBAcBHAcMAcYAcRAcLAcVAcSHAcSSAcSAcHAbVOWEL SIGN AAdIdIIdUdUUdVOCALIC ReRReL=11C3
8aBHAIKSUKI VOWEL SIGN EdAIdOdAUbSIGN CANDRABINDUcANUSVARAcVISARGAcVIRAMAcAVAGRAHAbDANDAbDOUBLE DAND
AbWORD SEPARATORbGAP FILLER-1d2=11C50aBHAIKSUKI DIGIT ZEROcONEcTWOcTHREEcFOURcFIVEcSIXcSEVENcEIGHTcN
INEbNUMBER ONEcTWOcTHREEcFOURcFIVEcSIXcSEVENcEIGHTcNINEcTENcTWENTYcTHIRTYcFORTYcFIFTYcSIXTYcSEVENTYc
EIGHTYcNINETYbHUNDREDS UNIT MARK=11C70aMARCHEN HEAD MARKbMARK SHADbLETTER KAcKHAcGAcNGAcCAcCHAcJAcNY
AcTAcTHAcDAcNAcPAcPHAcBAcMAcTSAcTSHAcDZAcWAcZHAcZAc-AcYAcRAcLAcSHAcSAcHAcA=11C92aMARCHEN SUBJOINED L
ETTER KAdKHAdGAdNGAdCAdCHAdJAdNYAdTAdTHAdDAdNAdPAdPHAdBAdMAdTSAdTSHAdDZAdWAdZHAdZA=11CA9aMARCHEN SUB
JOINED LETTER YAdRAdLAdSHAdSAdHAdAbVOWEL SIGN AAdIdUdEdObSIGN ANUSVARAcCANDRABINDU=11D00aMASARAM GON
DI LETTER AdAAdIdIIdUdUUdE=11D08aMASARAM GONDI LETTER AIdO=11D0BaMASARAM GONDI LETTER AUdKAdKHAdGAdG
HAdNGAdCAdCHAdJAdJHAdNYAdTTAdTTHAdDDAdDDHAdNNAdTAdTHAdDAdDHAdNAdPAdPHAdBAdBHAdMAdYAdRAdLAdVAdSHAdSSA
dSAdHAdLLAdKSSAdJNYAdTRAcVOWEL SIGN AAeIeIIeUeUUeVOCALIC R=11D3AaMASARAM GONDI VOWEL SIGN E=11D3CaMA
SARAM GONDI VOWEL SIGN AIeO=11D3FaMASARAM GONDI VOWEL SIGN AUcSIGN ANUSVARAdVISARGAdNUKTAdCANDRAdHAL
ANTAcVIRAMAcREPHAcRA-KARA=11D50aMASARAM GONDI DIGIT ZEROdONEdTWOdTHREEdFOURdFIVEdSIXdSEVENdEIGHTdNIN
E=11D60aGUNJALA GONDI LETTER AdAAdIdIIdUdUU=11D67aGUNJALA GONDI LETTER EEdAI=11D6AaGUNJALA GONDI LET
TER OOdAUdYAdVAdBAdBHAdMAdKAdKHAdTAdTHAdLAdGAdGHAdDAdDHAdNAdCAdCHAdTTAdTTHAdLLAdJAdJHAdDDAdDDHAdNGAd
PAdPHAdHAdRAdSAcVOWEL SIGN AAeIeIIeUeUU=11D90aGUNJALA GONDI VOWEL SIGN EEeAI=11D93aGUNJALA GONDI VOW
EL SIGN OOeAUcSIGN ANUSVARAdVISARGAcVIRAMAcOM=11DA0aGUNJALA GONDI DIGIT ZEROdONEdTWOdTHREEdFOURdFIVE
dSIXdSEVENdEIGHTdNINE=11EE0aMAKASAR LETTER KAcGAcNGAcPAcBAcMAcTAcDAcNAcCAcJAcNYAcYAcRAcLAcVAcSAcAbAN
GKAbVOWEL SIGN IdUdEdObPASSIMBANGbEND OF SECTION=11FB0aLISU LETTER YHA=11FC0aTAMIL FRACTION ONE THRE
E-HUNDRED-AND-TWENTIETHdONE-HUNDRED-AND-SIXTIETHdEIGHTIETHdSIXTY-FOURTHdFORTIETHdTHIRTY-SECONDcTHRE
E EIGHTIETHSdSIXTY-FOURTHScONE TWENTIETHdSIXTEENTH-1e2dTENTHdEIGHTHcTHREE TWENTIETHSdSIXTEENTHScON
E FIFTHdQUARTERdHALF-1e2cTHREE QUARTERScDOWNSCALING FACTOR KIIZHbSIGN NELcCEVITUcAAZHAAKKUcUZHAKKUcM
UUVUZHAKKUcKURUNIcPATHAKKUcMUKKURUNIcKAACUcPANAMcPONcVARAAKANcPAARAMcKUZHIcVELIbWET CULTIVATION SIGN
bDRY CULTIVATION SIGNbLAND SIGNbSALT PAN SIGNbTRADITIONAL CREDIT SIGNcNUMBER SIGNbCURRENT SIGNbAND O
DD SIGNbSPENT SIGNbTOTAL SIGNbIN POSSESSION SIGNbSTARTING FROM SIGNbSIGN MUTHALIYAcVAKAIYARAA=11FFFa
TAMIL PUNCTUATION END OF TEXTaCUNEIFORM SIGN AcA TIMES AeBADeGAN2 TENUeHAeIGIeLAGAR GUNUeMUSHeSAGcA2
cABcAB TIMES ASH2eDUN3 GUNUeGALeGAN2 TENUeHAeIGI GUNUeIMINeLAGABeSHESHeU PLUS U PLUS UdGUNUcAB2cAB
2 TIMES BALAGeGAN2 TENUeME PLUS ENeSHA3eTAK4cADcAKcAK TIMES ERIN2eSHITA PLUS GISHcALcAL TIMES ALeDIM
2eGISHeHAeKAD3eKIeSHEeUSHcALANcALEPHcAMARcAMAR TIMES SHEcANcAN OVER ANdTHREE TIMESdPLUS NAGA OPPOSIN
G AN PLUS NAGAfSQUAREDcANSHEcAPINcARADcARAD TIMES KURcARKABcASAL2cASHcASH ZIDA TENUdKABA TENUdOVER A
SH TUG2 OVER TUG2 TUG2 OVER TUG2 PAPfOVER ASHgASH CROSSING ASH OVER ASH OVER ASHcASH2cASHGABcBAcBADc
BAG3cBAHAR2cBALcBAL OVER BALcBALAGcBARcBARA2cBIcBI TIMES AeGAReIGI GUNUcBUcBU OVER BU ABfUNdCROSSIN
G BUcBULUGcBULUG OVER BULUGcBURcBUR2cDAcDAGcDAG KISIM5 TIMES A PLUS MASHfAMARfBALAGfBIfGAfGA PLUS MA
SHfGIfGIR2fGUDfHAfIRfIR PLUS LUfKAKfLAfLUfLU PLUS MASH2fLUMfNEfPAP PLUS PAPfSIfTAK4fU2 PLUS GIR2fUSH
cDAMcDARcDARA3cDARA4cDIcDIBcDIMcDIM TIMES SHEcDIM2cDINcDIN KASKAL U GUNU DISHcDISHcDUcDU OVER DUdGUN
UdSHESHIGcDUBcDUB TIMES ESH2cDUB2cDUGcDUGUDcDUHcDUNcDUN3cDUN3 GUNUdGUNU GUNUcDUN4cDUR2cEcE TIMES PAP
dOVER E NUN OVER NUNcE2cE2 TIMES A PLUS HA PLUS DAeGAReMIeSALeSHEeUcEDINcEGIRcELcENcEN TIMES GAN2eGA
N2 TENUeMEdCROSSING ENdOPPOSING ENdSQUAREDcERENcERIN2cESH2cEZENcEZEN TIMES AeA PLUS LALgLAL TIMES LA
LeANeBADeDUN3 GUNUfGUNU GUNUeHAeHA GUNUeIGI GUNUeKASKALeKASKAL SQUAREDeKU3eLAeLAL TIMES LALeLIeLUeU2
eUDcGAcGA GUNUcGA2cGA2 TIMES A PLUS DA PLUS HAgHAgIGIeAB2 TENU PLUS TABeANeASHeASH2 PLUS GALeBADeBA
R PLUS RAeBUReBUR PLUS RAeDAeDIeDIM TIMES SHEeDUBeELeEL PLUS LAeENeEN TIMES GAN2 TENUeGAN2 TENUeGARe
GIeGI4eGI4 PLUS AeGIR2 PLUS SUeHA PLUS LU PLUS ESH2eHALeHAL PLUS LAeHI PLUS LIeHUB2eIGI GUNUeISH PLU
S HU PLUS ASHeKAKeKASKALeKIDeKID PLUS LALeKU3 PLUS ANeLAeME PLUS ENeMIeNUNeNUN OVER NUNePAeSALeSAReS
HEeSHE PLUS TUReSHIDeSUMeTAK4eUeUDeUD PLUS DUdOVER GA2cGABAcGABA CROSSING GABAcGADcGAD OVER GAD GA
R OVER GARcGALcGAL GAD OVER GAD GAR OVER GARcGALAMcGAMcGANcGAN2cGAN2 TENUdOVER GAN2dCROSSING GAN2cGA
RcGAR3cGASHANcGESHTINcGESHTIN TIMES KURcGIcGI TIMES EeUdCROSSING GIcGI4cGI4 OVER GI4dCROSSING GI4cGI
DIMcGIR2cGIR2 GUNUcGIR3cGIR3 TIMES A PLUS IGIeGAN2 TENUeIGIeLU PLUS IGIePAcGISALcGISHcGISH CROSSIN
G GISHdTIMES BADeTAK4dTENUcGUcGU CROSSING GUcGU2cGU2 TIMES KAKeKAK TIMES IGI GUNUeNUNeSAL PLUS TUG2d
GUNUcGUDcGUD TIMES A PLUS KUReKURdOVER GUD LUGALcGULcGUMcGUM TIMES SHEcGURcGUR7cGURUNcGURUSHcHAcHA T
ENUdGUNUcHALcHIcHI TIMES ASHeASH2eBADeDISHeGADeKINeNUNeSHEeUcHUcHUB2cHUB2 TIMES ANeHALeKASKALeLISHeU
DcHUL2cIcI AcIBcIDIMcIDIM OVER IDIM BURfSQUAREDcIGcIGIcIGI DIBdRIdOVER IGI SHIR OVER SHIR UD OVER UD
dGUNUcILcIL TIMES GAN2 TENUcIL2cIMcIM TIMES TAK4dCROSSING IMdOPPOSING IMdSQUAREDcIMINcINcIRcISHcKAcK
A TIMES AeADeAD PLUS KU3eASH2eBADeBALAGeBAReBIeERIN2eESH2eGAeGALeGAN2 TENUeGAReGAR PLUS SHA3 PLUS Ae
GIeGIR2eGISH PLUS SARfCROSSING GISHeGUeGUR7eIGIeIMeKAKeKIeKIDeLIeLUeMEeME PLUS DUgGIgTEeMIeMI PLUS N
UNUZeNEeNUNePIeRUeSAeSAReSHAeSHEeSHIDeSHUeSIGeSUHUReTAReUeU2eUDeUMUM TIMES PAeUSHeZIcKA2cKA2 CROSSIN
G KA2cKABcKAD2cKAD3cKAD4cKAD5cKAD5 OVER KAD5cKAKcKAK TIMES IGI GUNUcKALcKAL TIMES BADdCROSSING KALcK
AM2cKAM4cKASKALcKASKAL LAGAB TIMES U OVER LAGAB TIMES UdOVER KASKAL LAGAB TIMES U OVER LAGAB TIMES U
cKESH2cKIcKI TIMES BADeUeUDcKIDcKINcKISALcKISHcKISIM5cKISIM5 OVER KISIM5cKUcKU OVER HI TIMES ASH2 K
U OVER HI TIMES ASH2cKU3cKU4cKU4 VARIANT FORMcKU7cKULcKUL GUNUcKUNcKURcKUR OPPOSING KURcKUSHU2cKWU31
8cLAcLAGABcLAGAB TIMES AeA PLUS DA PLUS HAgGARgLALeALeANeASH ZIDA TENUeBADeBIeDAReENeGAeGAReGUDeGU
D PLUS GUDeHAeHALeHI TIMES NUNeIGI GUNUeIMeIM PLUS HAgLUeKIeKINeKU3eKULeKUL PLUS HI PLUS AeLAGABeLIS
HeLUeLULeMEeME PLUS ENeMUSHeNEeSHE PLUS SUMeSHITA PLUS GISH PLUS ERIN2hTENUeSHU2eSHU2 PLUS SHU2eSUMe
TAGeTAK4eTE PLUS A PLUS SU PLUS NAeUeU PLUS AgU PLUS UeU2 PLUS ASHeUDeUSHdSQUAREDcLAGARcLAGAR TIME
S SHEeSHE PLUS SUMdGUNUdGUNU OVER LAGAR GUNU SHEcLAHSHUcLALcLAL TIMES LALcLAMcLAM TIMES KUReKUR PLU
S RUcLIcLILcLIMMU2cLISHcLUcLU TIMES BADcLU2cLU2 TIMES ALeBADeESH2eESH2 TENUeGAN2 TENUeHI TIMES BADeI
MeKAD2eKAD3eKAD3 PLUS ASHeKIeLA PLUS ASHeLAGABeME PLUS ENeNEeNUeSI PLUS ASHeSIK2 PLUS BUeTUG2dTENUdC
ROSSING LU2dOPPOSING LU2dSQUAREDdSHESHIGcLU3cLUGALcLUGAL OVER LUGALdOPPOSING LUGALdSHESHIGcLUHcLULcL
UMcLUM OVER LUMeLUM GAR OVER GARcMAcMA TIMES TAK4dGUNUcMA2cMAHcMARcMASHcMASH2cMEcMEScMIcMINcMUcMU OV
ER MUcMUGcMUG GUNUcMUNSUBcMURGU2cMUSHcMUSH TIMES AeKUReZAdOVER MUSHeMUSH TIMES A PLUS NAdCROSSING MU
SHcMUSH3cMUSH3 TIMES AeA PLUS DIeDIdGUNUcNAcNA2cNAGAcNAGA INVERTEDdTIMES SHU TENUdOPPOSING NAGAcNAGA
RcNAM NUTILLUcNAMcNAM2cNEcNE TIMES AeUDdSHESHIGcNIcNI TIMES EcNI2cNIMcNIM TIMES GAN2 TENUeGAR PLUS G
AN2 TENUcNINDA2cNINDA2 TIMES ANeASHeASH PLUS ASHeGUDeME PLUS GAN2 TENUeNEeNUNeSHEeSHE PLUS A ANgASHg
ASH PLUS ASHeU2 PLUS ASHeUSHcNISAGcNUcNU11cNUNcNUN LAGAR TIMES GARfMASHfSALfSAL OVER NUN LAGAR TIME
S SALfUSHdTENUdOVER NUNdCROSSING NUNeNUN LAGAR OVER LAGARcNUNUZcNUNUZ AB2 TIMES ASHGABfBIfDUGfGUDfIG
I GUNUfKAD3fLAfNEfSILA3fU2dKISIM5 TIMES BIfBI UcPAcPADcPANcPAPcPESH2cPIcPI TIMES AeABeBIeBUeEeIeIBeU
eU2dCROSSING PIcPIRIGcPIRIG TIMES KALeUDeZAdOPPOSING PIRIGcRAcRABcRIcRUcSAcSAG NUTILLUcSAGcSAG TIME
S AeDUeDUBeHAeKAKeKUReLUMeMIeNUNeSALeSHIDeTABeU2eUBeUMeUReUSHdOVER SAGdGUNUcSALcSAL LAGAB TIMES ASH2
cSANGA2cSARcSHAcSHA3cSHA3 TIMES AeBADeGISHeNEeSHU2eTUReUeU PLUS AcSHA6cSHAB6cSHAR2cSHEcSHE HUdOVER S
HE GAD OVER GAD GAR OVER GARfTAB OVER TAB GAR OVER GARcSHEG9cSHENcSHESHcSHESH2cSHESHLAMcSHIDcSHID TI
MES AeIMcSHIMcSHIM TIMES AeBALeBULUGeDINeGAReIGIeIGI GUNUeKUSHU2eLULeMUGeSALcSHINIGcSHIRcSHIR TENUdO
VER SHIR BUR OVER BURcSHITAcSHUcSHU OVER INVERTED SHUcSHU2cSHUBURcSIcSI GUNUcSIGcSIG4cSIG4 OVER SIG
4 SHU2cSIK2cSILA3cSUcSU OVER SUcSUDcSUD2cSUHURcSUMcSUMASHcSURcSUR9cTAcTA ASTERISKdTIMES HIeMIdGUNUcT
ABcTAB OVER TAB NI OVER NI DISH OVER DISHdSQUAREDcTAGcTAG TIMES BIeGUDeSHEeSHUeTUG2eUDcTAK4cTARcTEcT
E GUNUcTIcTI TENUcTILcTIRcTIR TIMES TAK4dOVER TIReTIR GAD OVER GAD GAR OVER GARcTUcTUG2cTUKcTUMcTURc
TUR OVER TUR ZA OVER ZAcUcU GUDdU UdOVER U PA OVER PA GAR OVER GARfSUR OVER SURfU REVERSED OVER U RE
VERSEDcU2cUBcUDcUD KUSHU2dTIMES BADeMIeU PLUS U PLUS UiU GUNUdGUNUdSHESHIGdSHESHIG TIMES BADcUDUGcUM
cUM TIMES LAGABeME PLUS DAeSHA3eUcUMBINcUMUMcUMUM TIMES KASKALePAcUNcUN GUNUcURcUR CROSSING URdSHESH
IGcUR2cUR2 TIMES A PLUS HAgNAeALeHAeNUNeU2eU2 PLUS ASHgBIcUR4cURIcURI3cURUcURU TIMES AeASHGABeBAReDU
NeGAeGALeGAN2 TENUeGAReGUeHAeIGIeIMeISHeKIeLUMeMINePAeSHEeSIG4eTUeU PLUS GUDeUDeURUDAcURUDAcURUDA TI
MES UcUSHcUSH TIMES AeKUeKUReTAK4cUSHXcUSH2cUSHUMXcUTUKIcUZ3cUZ3 TIMES KASKALcUZUcZAcZA TENUdSQUARE
D TIMES KURcZAGcZAMXcZE2cZIcZI OVER ZIcZI3cZIBcZIB KABA TENUcZIGcZIZ2cZUcZU5cZU5 TIMES AcZUBURcZUMcK
AP ELAMITEcAB TIMES NUNcAB2 TIMES AcAMAR TIMES KUGcDAG KISIM5 TIMES U2 PLUS MASHcDAG3cDISH PLUS SHUc
DUB TIMES SHEcEZEN TIMES GUDeSHEcGA2 TIMES AN PLUS KAK PLUS AeASH2cGE22cGIGcHUSHcKA TIMES ANSHEeASH3
eGISHeGUDeHI TIMES ASH2eLUMePAeSHULeTUeUR2cLAGAB TIMES GIcLU2 SHESHIG TIMES BADdTIMES ESH2 PLUS LALe
SHUcMESHcMUSH3 TIMES ZAcNA4cNINcNIN9cNINDA2 TIMES BALeGIcNU11 ROTATED NINETY DEGREEScPESH2 ASTERISKc
PIR2cSAG TIMES IGI GUNUcTI2cUM TIMES MEcU U=12400aCUNEIFORM NUMERIC SIGN TWO ASHdTHREE ASHdFOUR ASHd
FIVE ASHdSIX ASHdSEVEN ASHdEIGHT ASHdNINE ASHdTHREE DISHdFOUR DISHdFIVE DISHdSIX DISHdSEVEN DISHdEIG
HT DISHdNINE DISHdFOUR UdFIVE UdSIX UdSEVEN UdEIGHT UdNINE UdONE GESH2dTWO GESH2dTHREE GESH2dFOUR GE
SH2dFIVE GESH2dSIX GESH2dSEVEN GESH2dEIGHT GESH2dNINE GESH2dONE GESHUdTWO GESHUdTHREE GESHUdFOUR GES
HUdFIVE GESHUdTWO SHAR2dTHREE SHAR2eSHAR2 VARIANT FORMdFOUR SHAR2dFIVE SHAR2dSIX SHAR2dSEVEN SHAR2dE
IGHT SHAR2dNINE SHAR2dONE SHARUdTWO SHARUdTHREE SHARUeSHARU VARIANT FORMdFOUR SHARUdFIVE SHARUdSHAR
2 TIMES GAL PLUS DISHhMINdONE BURUdTWO BURUdTHREE BURUeBURU VARIANT FORMdFOUR BURUdFIVE BURUdTHREE V
ARIANT FORM ESH16gESH21dFOUR VARIANT FORM LIMMUgLIMMU4gLIMMU AhBdSIX VARIANT FORM ASH9dSEVEN VARIAN
T FORM IMIN3gIMIN AhBdEIGHT VARIANT FORM USSUgUSSU3dNINE VARIANT FORM ILIMMUgILIMMU3gILIMMU4gILIMM
U AdTWO ASH TENUdTHREE ASH TENUdFOUR ASH TENUdFIVE ASH TENUdSIX ASH TENUdONE BAN2dTWO BAN2dTHREE BAN
2dFOUR BAN2eBAN2 VARIANT FORMdFIVE BAN2eBAN2 VARIANT FORMdNIGIDAMINdNIGIDAESHdONE ESHE3dTWO ESHE3dON
E THIRD DISHdTWO THIRDS DISHdFIVE SIXTHS DISHdONE THIRD VARIANT FORM AdTWO THIRDS VARIANT FORM AdON
E EIGHTH ASHeQUARTER ASHdOLD ASSYRIAN ONE SIXTHgQUARTERdONE QUARTER GUReHALF GURdELAMITE ONE THIRDeT
WO THIRDSeFORTYeFIFTYdFOUR U VARIANT FORMdFIVE U VARIANT FORMdSIX U VARIANT FORMdSEVEN U VARIANT FOR
MdEIGHT U VARIANT FORMdNINE U VARIANT FORM=12470aCUNEIFORM PUNCTUATION SIGN OLD ASSYRIAN WORD DIVIDE
RdVERTICAL COLONdDIAGONAL COLONeTRICOLONeQUADCOLON=12480aCUNEIFORM SIGN AB TIMES NUN TENUeSHU2cAD TI
MES ESH2cBAD TIMES DISH TENUcBAHAR2 TIMES AB2eNIeZAcBU OVER BU TIMES NA2cDA TIMES TAK4cDAG TIMES KUR
cDIM TIMES IGIeU U UcDIM2 TIMES UDcDUG TIMES ANSHEeASHeASH AT LEFTeDINeDUNeERIN2eGAeGIeGIR2 GUNUeGIS
HeHAeHIeIGI GUNUeKASKALeKUReKUSHU2eKUSHU2 PLUS KASKALeLAK-020eLAMeLAM TIMES KUReLUH PLUS GISHeMASHeM
ESeMIeNIePIeSHEeSI GUNUcE2 TIMES KURePAPcERIN2 XcESH2 CROSSING ESH2cEZEN SHESHIG TIMES ASHfHIfIGI GU
NUfLAfLALfMEfMESfSUdTIMES SUcGA2 TIMES BAHAR2eDIM GUNUeDUG TIMES IGI GUNUgKASKALeERENeGAeGAR PLUS DI
gNEeHA PLUS AeKUSHU2 PLUS KASKALeLAMeLAM TIMES KUReLUHeMUSHeNEeNE PLUS E2gGIeSHIMeZIZ2cGABA ROTATE
D NINETY DEGREEScGESHTIN TIMES UcGISH TIMES GISH CROSSING GISHcGU2 TIMES IGI GUNUcGUD PLUS GISH TIME
S TAK4cHA TENU GUNUcHI TIMES ASH OVER HI TIMES ASHcKA TIMES BUeKAeU U UeURcLAGAB TIMES ZU OVER ZUcLA
K-003d021d025d030d050d051d062d079 OVER LAK-079 GUNUd080d081 OVER LAK-081d092d130d142d210d219d220d225
d228d238d265d266d343d347d348d383d384d390d441d449d449 TIMES GUfIGIfPAP PLUS LU3hPAP PLUS LU3fU2 PLU
S BAd450d457d470d483d490d492d493d495d550d608d617d617 TIMES ASHfBADfDUN3 GUNU GUNUfKU3fLAfTARfTEfU2fU
DfURUDAd636d648d648 TIMES DUBfGAfIGIfIGI GUNUfNIfPAP PLUS PAP PLUS LU3fSHESH PLUS KIfUDfURUDAd724d74
9cLU2 GUNU TIMES ASHdTIMES DISHeHALePAPePAP PLUS PAP PLUS LU3eTAK4cMI PLUS ZA7cMUSH OVER MUSH TIME
S GAgKAKcNINDA2 TIMES DIM GUNUeGISHeGULeHIeKESH2eLAK-050eMASHePAP PLUS PAPeUeU PLUS UeURUDAcSAG GUN
U TIMES HAdTIMES ENeSHE AT LEFTeTAK4cSHA6 TENUcSHE OVER SHEdPLUS HUB2eNAM2eSARcSHU2 PLUS DUG TIMES N
IeE2 TIMES ANcSI TIMES TAK4cTAK4 PLUS SAGcTUM TIMES GAN2 TENUeTHREE DISHcUR2 INVERTEDdTIMES UDcURU T
IMES DARA3eLAK-668eLU3cZA7cZU OVER ZU PLUS SARcZU5 TIMES THREE DISH TENU=12F90aCYPRO-MINOAN SIGN CM0
01dCM002dCM004dCM005dCM006dCM007dCM008dCM009dCM010dCM011dCM012dCM012BdCM013dCM015dCM017dCM019dCM021d
CM023dCM024dCM025dCM026dCM027dCM028dCM029dCM030dCM033dCM034dCM035dCM036dCM037dCM038dCM039dCM040dCM04
1dCM044dCM046dCM047dCM049dCM050dCM051dCM052dCM053dCM054dCM055dCM056dCM058dCM059dCM060dCM061dCM062dCM
063dCM064dCM066dCM067dCM068dCM069dCM070dCM071dCM072dCM073dCM074dCM075dCM075BdCM076dCM078dCM079dCM080
dCM081dCM082dCM083dCM084dCM085dCM086dCM087dCM088dCM089dCM090dCM091dCM092dCM094dCM095dCM096dCM097dCM0
98dCM099dCM100dCM101dCM102dCM103dCM104dCM105dCM107dCM108dCM109dCM110dCM112dCM114dCM301dCM302=13000aE
GYPTIAN HIEROGLYPH A001cA002cA003cA004cA005cA005AcA006cA006AcA006BcA007cA008cA009cA010cA011cA012cA01
3cA014cA014AcA015cA016cA017cA017AcA018cA019cA020cA021cA022cA023cA024cA025cA026cA027cA028cA029cA030cA
031cA032cA032AcA033cA034cA035cA036cA037cA038cA039cA040cA040AcA041cA042cA042AcA043cA043AcA044cA045cA0
45AcA046cA047cA048cA049cA050cA051cA052cA053cA054cA055cA056cA057cA058cA059cA060cA061cA062cA063cA064cA
065cA066cA067cA068cA069cA070cB001cB002cB003cB004cB005cB005AcB006cB007cB008cB009cC001cC002cC002AcC002
BcC002CcC003cC004cC005cC006cC007cC008cC009cC010cC010AcC011cC012cC013cC014cC015cC016cC017cC018cC019cC
020cC021cC022cC023cC024cD001cD002cD003cD004cD005cD006cD007cD008cD008AcD009cD010cD011cD012cD013cD014c
D015cD016cD017cD018cD019cD020cD021cD022cD023cD024cD025cD026cD027cD027AcD028cD029cD030cD031cD031AcD03
2cD033cD034cD034AcD035cD036cD037cD038cD039cD040cD041cD042cD043cD044cD045cD046cD046AcD047cD048cD048Ac
D049cD050cD050AcD050BcD050CcD050DcD050EcD050FcD050GcD050HcD050IcD051cD052cD052AcD053cD054cD054AcD055
cD056cD057cD058cD059cD060cD061cD062cD063cD064cD065cD066cD067cD067AcD067BcD067CcD067DcD067EcD067FcD06
7GcD067HcE001cE002cE003cE004cE005cE006cE007cE008cE008AcE009cE009AcE010cE011cE012cE013cE014cE015cE016
cE016AcE017cE017AcE018cE019cE020cE020AcE021cE022cE023cE024cE025cE026cE027cE028cE028AcE029cE030cE031c
E032cE033cE034cE034AcE036cE037cE038cF001cF001AcF002cF003cF004cF005cF006cF007cF008cF009cF010cF011cF01
2cF013cF013AcF014cF015cF016cF017cF018cF019cF020cF021cF021AcF022cF023cF024cF025cF026cF027cF028cF029cF
030cF031cF031AcF032cF033cF034cF035cF036cF037cF037AcF038cF038AcF039cF040cF041cF042cF043cF044cF045cF04
5AcF046cF046AcF047cF047AcF048cF049cF050cF051cF051AcF051BcF051CcF052cF053cG001cG002cG003cG004cG005cG0
06cG006AcG007cG007AcG007BcG008cG009cG010cG011cG011AcG012cG013cG014cG015cG016cG017cG018cG019cG020cG02
0AcG021cG022cG023cG024cG025cG026cG026AcG027cG028cG029cG030cG031cG032cG033cG034cG035cG036cG036AcG037c
G037AcG038cG039cG040cG041cG042cG043cG043AcG044cG045cG045AcG046cG047cG048cG049cG050cG051cG052cG053cG0
54cH001cH002cH003cH004cH005cH006cH006AcH007cH008cI001cI002cI003cI004cI005cI005AcI006cI007cI008cI009c
I009AcI010cI010AcI011cI011AcI012cI013cI014cI015cK001cK002cK003cK004cK005cK006cK007cK008cL001cL002cL0
02AcL003cL004cL005cL006cL006AcL007cL008cM001cM001AcM001BcM002cM003cM003AcM004cM005cM006cM007cM008cM0
09cM010cM010AcM011cM012cM012AcM012BcM012CcM012DcM012EcM012FcM012GcM012HcM013cM014cM015cM015AcM016cM0
16AcM017cM017AcM018cM019cM020cM021cM022cM022AcM023cM024cM024AcM025cM026cM027cM028cM028AcM029cM030cM0
31cM031AcM032cM033cM033AcM033BcM034cM035cM036cM037cM038cM039cM040cM040AcM041cM042cM043cM044cN001cN00
2cN003cN004cN005cN006cN007cN008cN009cN010cN011cN012cN013cN014cN015cN016cN017cN018cN018AcN018BcN019cN
020cN021cN022cN023cN024cN025cN025AcN026cN027cN028cN029cN030cN031cN032cN033cN033AcN034cN034AcN035cN03
5AcN036cN037cN037AcN038cN039cN040cN041cN042cNL001cNL002cNL003cNL004cNL005cNL005AcNL006cNL007cNL008cN
L009cNL010cNL011cNL012cNL013cNL014cNL015cNL016cNL017cNL017AcNL018cNL019cNL020cNU001cNU002cNU003cNU00
4cNU005cNU006cNU007cNU008cNU009cNU010cNU010AcNU011cNU011AcNU012cNU013cNU014cNU015cNU016cNU017cNU018c
NU018AcNU019cNU020cNU021cNU022cNU022AcO001cO001AcO002cO003cO004cO005cO005AcO006cO006AcO006BcO006CcO0
06DcO006EcO006FcO007cO008cO009cO010cO010AcO010BcO010CcO011cO012cO013cO014cO015cO016cO017cO018cO019cO
019AcO020cO020AcO021cO022cO023cO024cO024AcO025cO025AcO026cO027cO028cO029cO029AcO030cO030AcO031cO032c
O033cO033AcO034cO035cO036cO036AcO036BcO036CcO036DcO037cO038cO039cO040cO041cO042cO043cO044cO045cO046c
O047cO048cO049cO050cO050AcO050BcO051cP001cP001AcP002cP003cP003AcP004cP005cP006cP007cP008cP009cP010cP
011cQ001cQ002cQ003cQ004cQ005cQ006cQ007cR001cR002cR002AcR003cR003AcR003BcR004cR005cR006cR007cR008cR00
9cR010cR010AcR011cR012cR013cR014cR015cR016cR016AcR017cR018cR019cR020cR021cR022cR023cR024cR025cR026cR
027cR028cR029cS001cS002cS002AcS003cS004cS005cS006cS006AcS007cS008cS009cS010cS011cS012cS013cS014cS014
AcS014BcS015cS016cS017cS017AcS018cS019cS020cS021cS022cS023cS024cS025cS026cS026AcS026BcS027cS028cS029
cS030cS031cS032cS033cS034cS035cS035AcS036cS037cS038cS039cS040cS041cS042cS043cS044cS045cS046cT001cT00
2cT003cT003AcT004cT005cT006cT007cT007AcT008cT008AcT009cT009AcT010cT011cT011AcT012cT013cT014cT015cT01
6cT016AcT017cT018cT019cT020cT021cT022cT023cT024cT025cT026cT027cT028cT029cT030cT031cT032cT032AcT033cT
033AcT034cT035cT036cU001cU002cU003cU004cU005cU006cU006AcU006BcU007cU008cU009cU010cU011cU012cU013cU01
4cU015cU016cU017cU018cU019cU020cU021cU022cU023cU023AcU024cU025cU026cU027cU028cU029cU029AcU030cU031cU
032cU032AcU033cU034cU035cU036cU037cU038cU039cU040cU041cU042cV001cV001AcV001BcV001CcV001DcV001EcV001F
cV001GcV001HcV001IcV002cV002AcV003cV004cV005cV006cV007cV007AcV007BcV008cV009cV010cV011cV011AcV011BcV
011CcV012cV012AcV012BcV013cV014cV015cV016cV017cV018cV019cV020cV020AcV020BcV020CcV020DcV020EcV020FcV0
20GcV020HcV020IcV020JcV020KcV020LcV021cV022cV023cV023AcV024cV025cV026cV027cV028cV028AcV029cV029AcV03
0cV030AcV031cV031AcV032cV033cV033AcV034cV035cV036cV037cV037AcV038cV039cV040cV040AcW001cW002cW003cW00
3AcW004cW005cW006cW007cW008cW009cW009AcW010cW010AcW011cW012cW013cW014cW014AcW015cW016cW017cW017AcW01
8cW018AcW019cW020cW021cW022cW023cW024cW024AcW025cX001cX002cX003cX004cX004AcX004BcX005cX006cX006AcX00
7cX008cX008AcY001cY001AcY002cY003cY004cY005cY006cY007cY008cZ001cZ002cZ002AcZ002BcZ002CcZ002DcZ003cZ0
03AcZ003BcZ004cZ004AcZ005cZ005AcZ006cZ007cZ008cZ009cZ010cZ011cZ012cZ013cZ014cZ015cZ015AcZ015BcZ015Cc
Z015DcZ015EcZ015FcZ015GcZ015HcZ015IcZ016cZ016AcZ016BcZ016CcZ016DcZ016EcZ016FcZ016GcZ016HcAA001cAA002
cAA003cAA004cAA005cAA006cAA007cAA007AcAA007BcAA008cAA009cAA010cAA011cAA012cAA013cAA014cAA015cAA016cA
A017cAA018cAA019cAA020cAA021cAA022cAA023cAA024cAA025cAA026cAA027cAA028cAA029cAA030cAA031cAA032=13430
aEGYPTIAN HIEROGLYPH VERTICAL JOINERcHORIZONTAL JOINERcINSERT AT TOP STARTeBOTTOM STARTeTOP ENDeBOTT
OM ENDcOVERLAY MIDDLEcBEGIN SEGMENTcEND SEGMENT=14400aANATOLIAN HIEROGLYPH A001cA002cA003cA004cA005c
A006cA007cA008cA009cA010cA010AcA011cA012cA013cA014cA015cA016cA017cA018cA019cA020cA021cA022cA023cA024
cA025cA026cA026AcA027cA028cA029cA030cA031cA032cA033cA034cA035cA036cA037cA038cA039cA039AcA040cA041cA0
41AcA042cA043cA044cA045cA045AcA046cA046AcA046BcA047cA048cA049cA050cA051cA052cA053cA054cA055cA056cA05
7cA058cA059cA060cA061cA062cA063cA064cA065cA066cA066AcA066BcA066CcA067cA068cA069cA070cA071cA072cA073c
A074cA075cA076cA077cA078cA079cA080cA081cA082cA083cA084cA085cA086cA087cA088cA089cA090cA091cA092cA093c
A094cA095cA096cA097cA097AcA098cA098AcA099cA100cA100AcA101cA101AcA102cA102AcA103cA104cA104AcA104BcA10
4CcA105cA105AcA105BcA106cA107cA107AcA107BcA107CcA108cA109cA110cA110AcA110BcA111cA112cA113cA114cA115c
A115AcA116cA117cA118cA119cA120cA121cA122cA123cA124cA125cA125AcA126cA127cA128cA129cA130cA131cA132cA13
3cA134cA135cA135AcA136cA137cA138cA139cA140cA141cA142cA143cA144cA145cA146cA147cA148cA149cA150cA151cA1
52cA153cA154cA155cA156cA157cA158cA159cA160cA161cA162cA163cA164cA165cA166cA167cA168cA169cA170cA171cA1
72cA173cA174cA175cA176cA177cA178cA179cA180cA181cA182cA183cA184cA185cA186cA187cA188cA189cA190cA191cA1
92cA193cA194cA195cA196cA197cA198cA199cA200cA201cA202cA202AcA202BcA203cA204cA205cA206cA207cA207AcA208
cA209cA209AcA210cA211cA212cA213cA214cA215cA215AcA216cA216AcA217cA218cA219cA220cA221cA222cA223cA224cA
225cA226cA227cA227AcA228cA229cA230cA231cA232cA233cA234cA235cA236cA237cA238cA239cA240cA241cA242cA243c
A244cA245cA246cA247cA248cA249cA250cA251cA252cA253cA254cA255cA256cA257cA258cA259cA260cA261cA262cA263c
A264cA265cA266cA267cA267AcA268cA269cA270cA271cA272cA273cA274cA275cA276cA277cA278cA279cA280cA281cA282
cA283cA284cA285cA286cA287cA288cA289cA289AcA290cA291cA292cA293cA294cA294AcA295cA296cA297cA298cA299cA2
99AcA300cA301cA302cA303cA304cA305cA306cA307cA308cA309cA309AcA310cA311cA312cA313cA314cA315cA316cA317c
A318cA319cA320cA321cA322cA323cA324cA325cA326cA327cA328cA329cA329AcA330cA331cA332AcA332BcA332CcA333cA
334cA335cA336cA336AcA336BcA336CcA337cA338cA339cA340cA341cA342cA343cA344cA345cA346cA347cA348cA349cA35
0cA351cA352cA353cA354cA355cA356cA357cA358cA359cA359AcA360cA361cA362cA363cA364cA364AcA365cA366cA367cA
368cA368AcA369cA370cA371cA371AcA372cA373cA374cA375cA376cA377cA378cA379cA380cA381cA381AcA382cA383 R
A OR RIcA383AcA384cA385cA386cA386AcA387cA388cA389cA390cA391cA392cA393 EIGHTcA394cA395cA396cA397cA398
cA399cA400cA401cA402cA403cA404cA405cA406cA407cA408cA409cA410 BEGIN LOGOGRAM MARKcA410A END LOGOGRA
M MARKcA411cA412cA413cA414cA415cA416cA417cA418cA419cA420cA421cA422cA423cA424cA425cA426cA427cA428cA42
9cA430cA431cA432cA433cA434cA435cA436cA437cA438cA439cA440cA441cA442cA443cA444cA445cA446cA447cA448cA44
9cA450cA450AcA451cA452cA453cA454cA455cA456cA457cA457AcA458cA459cA460cA461cA462cA463cA464cA465cA466cA
467cA468cA469cA470cA471cA472cA473cA474cA475cA476cA477cA478cA479cA480cA481cA482cA483cA484cA485cA486cA
487cA488cA489cA490cA491cA492cA493cA494cA495cA496cA497cA501cA502cA503cA504cA505cA506cA507cA508cA509cA
510cA511cA512cA513cA514cA515cA516cA517cA518cA519cA520cA521cA522cA523cA524cA525cA526cA527cA528cA529cA
530=16800aBAMUM LETTER PHASE-A NGKUE MFONeGBIEE FONePON MFON PIPAEMGBIEEgPIPAEMBAeNAA MFONeSHUENSHUE
TeTITA MFONeNZA MFONeSHINDA PA NJIePON PA NJI PIPAEMGBIEEhPIPAEMBAeMAEMBGBIEEeTU MAEMBAeNGANGUeMAEMV
EUXeMANSUAEeMVEUAENGAMeSEUNYAMeNTOQPENeKEUKEUTNDAeNKINDIeSUUeNGKUENZEUMeLAPAQeLET KUTeNTAP MFAAeMAEK
EUPePASHAEeGHEUAERAEePAMSHAEeMON NGGEUAETeNZUN MEUTeU YUQ NAEeGHEUAEGHEUAEeNTAP NTAAeSISAeMGBASAeMEU
NJOMNDEUQeMOOMPUQeKAFAePA LEERAEWAeNDA LEERAEWAePETeMAEMKPENeNIKAePUPeTUAEPeLUAEPeSONJAMeTEUTEUWENeM
AENYIeKETeNDAANGGEUAETeKUOQeMOOMEUTeSHUMeLOMMAEeFIRIeROMeKPOQeSOQeMAP PIEETeSHIRAEeNTAPeSHOQ NSHUT Y
UMeNYIT MONGKEUAEQePAARAEeNKAARAEeUNKNOWNeNGGENeMAESIeNJAMeMBANYIeNYETeTEUAENeSOTePAAMeNSHIEEeMAEMeN
YIeKAQeNSHAeVEEeLUeNENeNAQeMBAQdB NSHUETeTU MAEMGBIEEeSIEEeSET TUeLOM NTEUMeMBA MAELEEeKIEEMeYEURAEe
MBAARAEeKAMePEESHIeYAFU LEERAEWAeLAM NSHUT NYAMeNTIEE SHEUOQeNDU NJAAeGHEUGHEUAEMePITeTU NSIEEeSHE
T NJAQeSHEUAEQTUeMFON TEUAEQeMBIT MBAAKETeNYI NTEUMeKEUPUQeGHEUGHENeKEUYEUXeLAANAEePARUMeVEUMeNGKIND
I MVOPeNGGEU MBUeWUAETeSAKEUAEeTAAMeMEUQeNGGUOQeNGGUOQ LARGEeMFIYAQeSUEeMBEURIeMONTIEENeNYAEMAEePUNG
AAMeMEUT NGGEETeFEUXeMBUOQeFEEeKEUAEMeMA NJEUAENAfNJUQAeLETeNGGAAMeNSENeMAeKIQeNGOMdC NGKUE MAEMBAeN
ZAeYUMeWANGKUOQeNGGENeNDEUAEREEeNGKAQeGHARAEeMBEEKEETeGBAYIeNYIR MKPARAQ MEUNeNTU MBITeMBEUMePIRIEEN
eNDOMBUeMBAA CABBAGE-TREEeKEUSHEUAEPeGHAPeKEUKAQeYU MUOMAEeNZEUMeMBUEeNSEUAENeMBITeYEUQeKPARAQeKAAeS
EUXeNDIDAeTAASHAEeNJUEQeTITA YUEeSUAETeNGGUAEN NYAMeVEUXeNANSANAQeMA KEUAERIeNTAAeNGGUONeLAPeMBIRIEE
NeMGBASAQeNTEUNGBAeTEUTEUXeNGGUMeFUEeNDEUTeNSAeNSHAQeBUNGeVEUAEPENeMBERAEeRUeNJAEMeLAMeTITUAEPeNSUO
T NGOMeNJEEEEeKETeNGGUeMAESIeMBUAEMeLUeKUTeNJAMeNGOMeWUPeNGGUEETeNSOMeNTENeKUOP NKAARAEeNSUNeNDAMeM
A NSIEEeYAAeNDAPeSHUEQeSETFONeMBIeMAEMBAeMBANYIeKEUSEUXeMBEUXeKEUMeMBAA PICKETeYUWOQeNJEUXeMIEEeMUAE
eSHIQeKEN LAWfFATIGUEeNGAQeNAQeLIQePINePENeTETdD MBUOeWAPeNJIeMFONeNJIEEeLIEEeNJEUTeNSHEEeNGGAAMAEeN
YAMeWUAENeNGKUNeSHEEeNGKAPeKEUAETMEUNeTEUTeSHEUAEeNJAPeSUEeKETeYAEMMAEeKUOMeSAPeMFEUTeNDEUXeMALEERIe
MEUTeSEUAEQeYENeNJEUAEMeKEUOT MBUAEeNGKEURIeTUeGHAAeNGKYEEeFEUFEUAETeNDEEeMGBOFUMeLEUAEPeNDONeMONIeM
GBEUNePUUTeMGBIEEeMFOeLUMeNSIEEPeMBAAeKWAETeNYETeTEUAENeSOTeYUWOQeKEUMeRAEMeTEEEEeNGKEUAEQeMFEUAEeNS
IEETeKEUPePIPePEUTAEeNYUEeLETeNGGAAMeMFIEEeNGGWAENeYUOMePAPeYUOPeNDAMeNTEUMeSUAEeKUNeNGGEUXeNGKIEEeT
UOTeMEUNeKUQeNSUMeTEUNeMAENJETeNGGAPeLEUMeNGGUOMeNSHUTeNJUEQeGHEUAEeKUeREN OLDeTAEeTOQeNYIeRIIeLEEEE
eMEEEEeMeSUUeMUeSHIIeSHEUXeKYEEeNUeSHUeNTEEePEEeNIeSHOQePUQeMVOPeLOQeREN MUCHeTIeNTUUeMBAA SEVENeSAQ
eFAAdE NDAPeTOONeMBEUMeLAPeVOMeLOONePAAeSOMeRAQeNSHUOPeNDUNePUAEeTAMeNGKAeKPEUXeWUOeSEEeNGGEUAETePAA
MeTOOeKUOPeLOMeNSHIEEeNGOPeMAEMeNGKEUXeNGOQeNSHUEeRIMGBAeNJEUXePEEMeSAAeNGGURAEeMGBAeGHEUXeNGKEUAEMe
NJAEMLIeMAPeLOOTeNGGEEEEeNDIQeTAEN NTEUMeSETePUMeNDAA SOFTNESSeNGGUAESHAE NYAMeYIEEeGHEUNeTUAEeYEUAE
ePOeTUMAEeKEUAEeSUAENeTEUAEQeVEUAEeWEUXeLAAMePUeTAAQeGHAAMAEeNGEUREUTeSHEUAEQeMGBENeMBEEeNZAQeNKOMeG
BETeTUMeKUETeYAPeNYI CLEAVEReYITeMFEUQeNDIAQePIEEQeYUEQeLEUAEMeFUEeGBEUXeNGKUPeKETeMAEeNGKAAMIeGHETe
FAeNTUMePEUTeYEUMeNGGEUAEeNYI BETWEENeNZUQePOONeMIEEeFUETeNAEeMUAEeGHEUAEeFU IeMVIePUAQeNGKUMeKUTePI
ETeNTAPeYEUAETeNGGUPePA PEOPLEeFU CALLeFOMeNJEEeAeTOQeOeIeLAQePA PLURALeTAAeTAQeNDAA MY HOUSEeSHIQeY
EUXeNGUAEeYUAENeYOQ SWIMMINGfCOVEReYUQeYUNeKEUXePEUXeNJEE EPOCHePUEeWUEeFEEeVEEeLUeMIeREUXeRAEeNGUAE
TeNGAeSHOeSHOQeFU REMEDYeNAePIeLOQeKOeMENeMAeMAQeTEUeKIeMONeTENeFAQeGHOMdF KAeUeKUeEEeREEeTAEeNYIeLA
eRIIeRIEEeMEEEEeTAAeNDAAeNJAEMeMeSUUeSHIIeSIeSEUXeKYEEeKETeNUAEeNUeNJUAEeYOQeSHUeYAeNSHAePEUXeNTEEeW
UEePEEeRUeNIeREUXeKENeNGKWAENeNGGAeSHOePUAEeFOMeWAeLIeLOQeKOeMBENeRENeMAeMOeMBAAeTETeKPAeSAMBAeVUEQ=
16A40aMRO LETTER TAcNGIcYOcMIMcBAcDAcAcPHIcKHAIcHAOcDAIcCHUcKEAAEcOLcMAEMcNINcPAcOOcOcROcSHIcTHEAcEA
cWAcEcKOcLANcLAcHAIcRIcTEK=16A60aMRO DIGIT ZEROcONEcTWOcTHREEcFOURcFIVEcSIXcSEVENcEIGHTcNINE=16A6EaM
RO DANDAbDOUBLE DANDAaTANGSA LETTER OZcOCcOQcOXcAZcACcAQcAXcVZcVCcVQcVXcEZcECcEQcEXcIZcICcIQcIXcUZcU
CcUQcUXcAWZcAWCcAWQcAWXcUIZcUICcUIQcUIXcFINAL NGcLONG UEXcSHORT UEZdAWXcUECcUEZcUEQcUEXcUIUZcUIUCcUI
UQcUIUXcMZcMCcMQcMXcKAcKHAcGAcNGAcSAcYAcWAcPAcNYAcPHAcBAcMAcNAcHAcLAcHTAcTAcDAcRAcNHAcSHAcCAcTSAcGHA
cHTTAcTHAcXAcFAcDHAcCHAcZA=16AC0aTANGSA DIGIT ZEROcONEcTWOcTHREEcFOURcFIVEcSIXcSEVENcEIGHTcNINE=16AD
0aBASSA VAH LETTER ENNIdKAdSEdFAdMBEdYIEdGAHdDHIIdKPAHdJOdHWAHdWAdZOdGBUdDOdCEdUWUdTOdBAdVUdYEINdPAd
WADDAdAdOdOOdUdEEdEdI=16AF0aBASSA VAH COMBINING HIGH TONEdLOW TONEdMID TONEdLOW-MID TONEdHIGH-LOW TO
NEcFULL STOP=16B00aPAHAWH HMONG VOWEL KEEBdKEEVdKIBdKIVdKAUBdKAUVdKUBdKUVdKEBdKEVdKAIBdKAIVdKOOBdKOO
VdKAWBdKAWVdKUABdKUAVdKOBdKOVdKIABdKIAVdKABdKAVdKWBdKWVdKAABdKAAVcCONSONANT VAUdNTSAUdLAUdHAUdNLAUdR
AUdNKAUdQHAUdYAUdHLAUdMAUdCHAUdNCHAUdHNAUdPLHAUdNTHAUdNAUdAUdXAUdCAUcMARK CIM TUBeSOeKESeKHAVeSUAMeH
OMeTAUMcSIGN VOS THOMeTSHAB CEEBdCIM CHEEMdVOS THIABeFEEMdXYEEM NTXIVeRHOeTOVeFAIBdVOS SEEVdMEEJ SUA
BdVOS NRUAdIB YAMdXAUSdCIM TSOV ROG=16B50aPAHAWH HMONG DIGIT ZEROdONEdTWOdTHREEdFOURdFIVEdSIXdSEVENd
EIGHTdNINE=16B5BaPAHAWH HMONG NUMBER TENSdHUNDREDSdTEN THOUSANDSdMILLIONSdHUNDRED MILLIONSdTEN BILLI
ONSdTRILLIONS=16B63aPAHAWH HMONG SIGN VOS LUBdXYOOdHLIdTHIRD-STAGE HLIdZWJ THAJdHNUBdNQIGdXIABdNTUJd
AVdTXHEEJ CEEVdMEEJ TSEEBdTAUdLOSdMUSdCIM HAIS LUS NTOG NTOGeCUAM TSHOOJeTXWVeTXWV CHWVePUB DAWBeNRE
S TOS=16B7DaPAHAWH HMONG CLAN SIGN TSHEEJeYEEGeLISeLAUJeXYOOJeKOOeHAWJeMUASeTHOJeTSABePHABeKHABeHAMe
VAJeFAJeYAJeTSWBeKWMeVWJ=16E40aMEDEFAIDRIN CAPITAL LETTER MdSdVdWdATIUdZdKPdPdTdGdFdIdKdAdJdEdBdCdUd
YUdLdQdHPdNYdXdDdOEdNdRdOdAIdYbSMALL LETTER MdSdVdWdATIUdZdKPdPdTdGdFdIdKdAdJdEdBdCdUdYUdLdQdHPdNYdX
dDdOEdNdRdOdAIdYbDIGIT ZEROcONEcTWOcTHREEcFOURcFIVEcSIXcSEVENcEIGHTcNINEbNUMBER TENcELEVENcTWELVEcTH
IRTEENcFOURTEENcFIFTEENcSIXTEENcSEVENTEENcEIGHTEENcNINETEENbDIGIT ONE ALTERNATE FORMcTWO ALTERNATE F
ORMcTHREE ALTERNATE FORMbCOMMAbFULL STOPbSYMBOL AIVAbEXCLAMATION OH=16F00aMIAO LETTER PAcBAcYI PAcPL
AcMAcMHAcARCHAIC MAcFAcVAcVFAcTAcDAcYI TTAdTAcTTAcDDAcNAcNHAcYI NNAcARCHAIC NAcNNAcNNHAcLAcLYAcLHAcL
HYAcTLHAcDLHAcTLHYAcDLHYAcKAcGAcYI KAcQAcQGAcNGAcNGHAcARCHAIC NGAcHAcXAcGHAcGHHAcTSSAcDZZAcNYAcNYHAc
TSHAcDZHAcYI TSHAdDZHAcREFORMED TSHAcSHAcSSAcZHAcZSHAcTSAcDZAcYI TSAcSAcZAcZSAcZZAcZZSAcARCHAIC ZZAc
ZZYAcZZSYAcWAcAHcHHAcBRIcSYIcDZYIcTEcTSEcRTE=16F4FaMIAO SIGN CONSONANT MODIFIER BARbLETTER NASALIZAT
IONbSIGN ASPIRATIONcREFORMED VOICINGdASPIRATIONbVOWEL SIGN AdAAdAHHdANdANGdOdOOdWOdWdEdENdENGdOEYdId
IAdIANdIANGdIOdIEdIIdIUdINGdUdUAdUANdUANGdUUdUEIdUNGdYdYIdAEdAEEdERRdROUNDED ERRdERdROUNDED ERdAIdEI
dAUdOUdNdNGdUOGdYUIdOGdOERdVWdIGdEAdIONGdUI=16F8FaMIAO TONE RIGHTcTOP RIGHTcABOVEcBELOWbLETTER TONE-
2d3d4d5d6d7d8cREFORMED TONE-1e2e4e5e6e8=16FE0aTANGUT ITERATION MARKaNUSHU ITERATION MARKaOLD CHINES
E HOOK MARKcITERATION MARKaKHITAN SMALL SCRIPT FILLER=16FF0aVIETNAMESE ALTERNATE READING MARK CAeNHA
Y=18800aTANGUT COMPONENT-001c002c003c004c005c006c007c008c009c010c011c012c013c014c015c016c017c018c019
c020c021c022c023c024c025c026c027c028c029c030c031c032c033c034c035c036c037c038c039c040c041c042c043c044
c045c046c047c048c049c050c051c052c053c054c055c056c057c058c059c060c061c062c063c064c065c066c067c068c069
c070c071c072c073c074c075c076c077c078c079c080c081c082c083c084c085c086c087c088c089c090c091c092c093c094
c095c096c097c098c099c100c101c102c103c104c105c106c107c108c109c110c111c112c113c114c115c116c117c118c119
c120c121c122c123c124c125c126c127c128c129c130c131c132c133c134c135c136c137c138c139c140c141c142c143c144
c145c146c147c148c149c150c151c152c153c154c155c156c157c158c159c160c161c162c163c164c165c166c167c168c169
c170c171c172c173c174c175c176c177c178c179c180c181c182c183c184c185c186c187c188c189c190c191c192c193c194
c195c196c197c198c199c200c201c202c203c204c205c206c207c208c209c210c211c212c213c214c215c216c217c218c219
c220c221c222c223c224c225c226c227c228c229c230c231c232c233c234c235c236c237c238c239c240c241c242c243c244
c245c246c247c248c249c250c251c252c253c254c255c256c257c258c259c260c261c262c263c264c265c266c267c268c269
c270c271c272c273c274c275c276c277c278c279c280c281c282c283c284c285c286c287c288c289c290c291c292c293c294
c295c296c297c298c299c300c301c302c303c304c305c306c307c308c309c310c311c312c313c314c315c316c317c318c319
c320c321c322c323c324c325c326c327c328c329c330c331c332c333c334c335c336c337c338c339c340c341c342c343c344
c345c346c347c348c349c350c351c352c353c354c355c356c357c358c359c360c361c362c363c364c365c366c367c368c369
c370c371c372c373c374c375c376c377c378c379c380c381c382c383c384c385c386c387c388c389c390c391c392c393c394
c395c396c397c398c399c400c401c402c403c404c405c406c407c408c409c410c411c412c413c414c415c416c417c418c419
c420c421c422c423c424c425c426c427c428c429c430c431c432c433c434c435c436c437c438c439c440c441c442c443c444
c445c446c447c448c449c450c451c452c453c454c455c456c457c458c459c460c461c462c463c464c465c466c467c468c469
c470c471c472c473c474c475c476c477c478c479c480c481c482c483c484c485c486c487c488c489c490c491c492c493c494
c495c496c497c498c499c500c501c502c503c504c505c506c507c508c509c510c511c512c513c514c515c516c517c518c519
c520c521c522c523c524c525c526c527c528c529c530c531c532c533c534c535c536c537c538c539c540c541c542c543c544
c545c546c547c548c549c550c551c552c553c554c555c556c557c558c559c560c561c562c563c564c565c566c567c568c569
c570c571c572c573c574c575c576c577c578c579c580c581c582c583c584c585c586c587c588c589c590c591c592c593c594
c595c596c597c598c599c600c601c602c603c604c605c606c607c608c609c610c611c612c613c614c615c616c617c618c619
c620c621c622c623c624c625c626c627c628c629c630c631c632c633c634c635c636c637c638c639c640c641c642c643c644
c645c646c647c648c649c650c651c652c653c654c655c656c657c658c659c660c661c662c663c664c665c666c667c668c669
c670c671c672c673c674c675c676c677c678c679c680c681c682c683c684c685c686c687c688c689c690c691c692c693c694
c695c696c697c698c699c700c701c702c703c704c705c706c707c708c709c710c711c712c713c714c715c716c717c718c719
c720c721c722c723c724c725c726c727c728c729c730c731c732c733c734c735c736c737c738c739c740c741c742c743c744
c745c746c747c748c749c750c751c752c753c754c755c756c757c758c759c760c761c762c763c764c765c766c767c768=1AF
F0aKATAKANA LETTER MINNAN TONE-2e3e4e5=1AFF5aKATAKANA LETTER MINNAN TONE-7e8dNASALIZED TONE-1f2f3f4f
5=1AFFDaKATAKANA LETTER MINNAN NASALIZED TONE-7f8=1B000aKATAKANA LETTER ARCHAIC EaHIRAGANA LETTER AR
CHAIC YEaHENTAIGANA LETTER A-1d2d3dWOcI-1d2d3d4cU-1d2d3d4d5cE-2d3d4d5d6cO-1d2d3cKA-1d2d3d4d5d6d7d8d9
d10d11dKEcKI-1d2d3d4d5d6d7d8cKU-1d2d3d4d5d6d7cKE-1d2d3d4d5d6cKO-1d2d3dKIcSA-1d2d3d4d5d6d7d8cSI-1d2d3
d4d5d6cSU-1d2d3d4d5d6d7d8cSE-1d2d3d4d5cSO-1d2d3d4d5d6d7cTA-1d2d3d4cTI-1d2d3d4d5d6d7cTU-1d2d3d4dTOcTE
-1d2d3d4d5d6d7d8d9cTO-1d2d3d4d5d6dRAcNA-1d2d3d4d5d6d7d8d9cNI-1d2d3d4d5d6d7dTEcNU-1d2d3cNE-1d2d3d4d5d
6dKOcNO-1d2d3d4d5cHA-1d2d3d4d5d6d7d8d9d10d11cHI-1d2d3d4d5d6d7cHU-1d2d3cHE-1d2d3d4d5d6d7cHO-1d2d3d4d5
d6d7d8cMA-1d2d3d4d5d6d7cMI-1d2d3d4d5d6d7cMU-1d2d3d4cME-1d2dMAcMO-1d2d3d4d5d6cYA-1d2d3d4d5dYOcYU-1d2d
3d4cYO-1d2d3d4d5d6cRA-1d2d3d4cRI-1d2d3d4d5d6d7cRU-1d2d3d4d5d6cRE-1d2d3d4cRO-1d2d3d4d5d6cWA-1d2d3d4d5
cWI-1d2d3d4d5cWE-1d2d3d4cWO-1d2d3d4d5d6d7cN-MU-MO-1f2aHIRAGANA LETTER ARCHAIC WUaKATAKANA LETTER ARC
HAIC YIdYEdWU=1B150aHIRAGANA LETTER SMALL WIdWEdWO=1B164aKATAKANA LETTER SMALL WIdWEdWOdN=1BC00aDUPL
OYAN LETTER HcXcPcTcFcKcLcBcDcVcGcRcP NcD ScF NcK McR ScTHcSLOAN DHcDHcKKcSLOAN JcHLcLHcRHcMcNcJcSc
M NcN McJ McS JcM WITH DOTcN WITH DOTcJ WITH DOTeDOTS INSIDE AND ABOVEcS WITH DOTeDOT BELOWcM ScN Sc
J ScS ScM N ScN M ScJ M ScS J ScJ S WITH DOTdNdN ScS TdT RdPdP RcT SdR ScWcWHcW RcS NdMcK R ScG R Sc
S KdK RcAcSLOAN OWcOAcOcAOUcIcEcIEcSHORT IcUIcEEcSLOAN EHcROMANIAN IcSLOAN EEcLONG IcYEcUcEUcXWcU Nc
LONG UcROMANIAN UcUHcSLOAN UcOOHcOWcOUcWAcWOcWIcWEIcWOWcNASAL UdOdIdAcPERNIN ANdAMcSLOAN ENdANdONcVO
CALIC M=1BC70aDUPLOYAN AFFIX LEFT HORIZONTAL SECANTcMID HORIZONTAL SECANTcRIGHT HORIZONTAL SECANTcLO
W VERTICAL SECANTcMID VERTICAL SECANTcHIGH VERTICAL SECANTcATTACHED SECANTdLEFT-TO-RIGHT SECANTdTANG
ENTdTAILdE HOOKdI HOOKdTANGENT HOOK=1BC80aDUPLOYAN AFFIX HIGH ACUTEdTIGHT ACUTEdGRAVEdLONG GRAVEdDOT
dCIRCLEdLINEdWAVEdVERTICAL=1BC90aDUPLOYAN AFFIX LOW ACUTEdTIGHT ACUTEdGRAVEdLONG GRAVEdDOTdCIRCLEdLI
NEdWAVEdVERTICALdARROW=1BC9CaDUPLOYAN SIGN O WITH CROSSbTHICK LETTER SELECTORbDOUBLE MARKbPUNCTUATIO
N CHINOOK FULL STOPaSHORTHAND FORMAT LETTER OVERLAPcCONTINUING OVERLAPcDOWN STEPcUP STEP=1CF00aZNAME
NNY COMBINING MARK GORAZDO NIZKO S KRYZHEM ON LEFTdNIZKO S KRYZHEM ON LEFTdTSATA ON LEFTdGORAZDO NIZ
KO ON LEFTdNIZKO ON LEFTdSREDNE ON LEFTdMALO POVYSHE ON LEFTdPOVYSHE ON LEFTdVYSOKO ON LEFTdMALO POV
YSHE S KHOKHLOM ON LEFTdPOVYSHE S KHOKHLOM ON LEFTdVYSOKO S KHOKHLOM ON LEFTdGORAZDO NIZKO S KRYZHE
M ON RIGHTdNIZKO S KRYZHEM ON RIGHTdTSATA ON RIGHTdGORAZDO NIZKO ON RIGHTdNIZKO ON RIGHTdSREDNE ON R
IGHTdMALO POVYSHE ON RIGHTdPOVYSHE ON RIGHTdVYSOKO ON RIGHTdMALO POVYSHE S KHOKHLOM ON RIGHTdPOVYSH
E S KHOKHLOM ON RIGHTdVYSOKO S KHOKHLOM ON RIGHTdTSATA S KRYZHEMdMALO POVYSHE S KRYZHEMdSTRANNO MAL
O POVYSHEdPOVYSHE S KRYZHEMeSTRANNOdVYSOKO S KRYZHEMdMALO POVYSHE STRANNOdGORAZDO VYSOKOdZELOdONdRAV
NOdTIKHAYAdBORZAYAdUDARKAdPODVERTKAdLOMKAdKUPNAYAdKACHKAdZEVOKdSKOBAdRAZSEKAdKRYZH ON LEFT=1CF30aZNA
MENNY COMBINING TONAL RANGE MARK MRACHNOfSVETLOfTRESVETLOcMARK ZADERZHKAdDEMESTVENNY ZADERZHKAdOTSEC
HKAdPODCHASHIEdPODCHASHIE WITH VERTICAL STROKEdCHASHKAdCHASHKA POLNAYAdOBLACHKOdSOROCHYA NOZHKAdTOCH
KAdDVOETOCHIEcATTACHING VERTICAL OMETcMARK CURVED OMETdKRYZHcLOWER TONAL RANGE INDICATORbPRIZNAK MOD
IFIER LEVEL-2e3dDIRECTION FLIPdKRYZHdROG=1CF50aZNAMENNY NEUME KRYUKcKRYUK TIKHYcPARAKLITcDVA V CHELN
UcKLYUCHcZANOZHEKcSTOPITSAcSTOPITSA S OCHKOMcPEREVODKAcPEREVODKA NEPOSTOYANNAYAcSTOPITSA WITH SOROCH
YA NOZHKAcCHELYUSTKAcPALKAcZAPYATAYAcGOLUBCHIK BORZYdTIKHYdMRACHNYdSVETLYdTRESVETLYcVRAKHIYA PROSTAY
AdMRACHNAYAdSVETLAYAdTRESVETLAYAdKLYUCHEVAYA PROSTAYAeMRACHNAYAeSVETLAYAeTRESVETLAYAcDOUBLE ZAPYATAY
AcREVERSED CHELYUSTKAcDERBITSAcKHAMILOcCHASHKAcPODCHASHIEcSKAMEYTSA MRACHNAYAdSVETLAYAdTRESVETLAYAdT
IKHAYAcDEMESTVENNY KLYUCHcSKAMEYTSA KLYUCHEVAYA SVETLAYAdKLYUCHENEPOSTOYANNAYAdKLYUCHEVAYA TIKHAYAdD
VOECHELNAYA PROSTAYAeSVETLAYAeNEPOSTOYANNAYAeKLYUCHEVAYAcSLOZHITIEcSLOZHITIE S ZAPYATOYdZAKRYTOEdS K
RYZHEMcKRYZHcROGcFITAcKOBYLAcZMEYTSAcSTATYAcSTATYA S ZAPYATOYeKRYZHEMeZAPYATOY I KRYZHEMeKRYZHEM I Z
APYATOYdZAKRYTAYAdZAKRYTAYA S ZAPYATOYdS ROGOMeDVUMYA ZAPYATYMIeZAPYATOY I PODCHASHIEMcPOLKULIZMYcST
ATYA NEPOSTOYANNAYAcSTRELA PROSTAYAdMRACHNOTIKHAYAdKRYZHEVAYAdPOLUPOVODNAYAdPOVODNAYAdNEPOSTOYANNAYA
dKLYUCHEPOVODNAYAdKLYUCHENEPOSTOYANNAYAdTIKHAYA PUTNAYAdDVOECHELNAYAdDVOECHELNOKRYZHEVAYAdDVOECHELNO
POVODNAYAdDVOECHELNAYA KLYUCHEVAYAdDVOECHELNOPOVODNAYA KLYUCHEVAYAdGROMNAYA WITH SINGLE ZAPYATAYAdGR
OMOPOVODNAYA WITH SINGLE ZAPYATAYAdGROMNAYAdGROMOPOVODNAYAdGROMOPOVODNAYA WITH DOUBLE ZAPYATAYAdGROM
OKRYZHEVAYAdGROMOKRYZHEVAYA POVODNAYAcMECHIKcMECHIK POVODNYdKLYUCHEVOYdKLYUCHEPOVODNYdKLYUCHENEPOSTO
YANNYcSTRELA TRYASOGLASNAYAdTRYASOPOVODNAYAdTRYASOSTRELNAYAcOSOKAcOSOKA SVETLAYAdTRESVETLAYAdKRYUKOV
AYA SVETLAYAdKLYUCHEVAYA SVETLAYAeNEPOSTOYANNAYAcSTRELA KRYUKOVAYAdKRYUKOVAYA POVODNAYAeGROMNAYA WIT
H SINGLE ZAPYATAYAeGROMOPOVODNAYA WITH SINGLE ZAPYATAYAeGROMNAYAeGROMOPOVODNAYAeGROMOPOVODNAYA WIT
H DOUBLE ZAPYATAYAeGROMOKRYZHEVAYAeGROMOKRYZHEVAYA POVODNAYAeTRYASKAcKUFISMAcOBLAKOcDUDAcNEMKAcPAUK=
1D000aBYZANTINE MUSICAL SYMBOL PSILIdDASEIAdPERISPOMENIdOXEIA EKFONITIKONeDIPLIdVAREIA EKFONITIKONeD
IPLIdKATHISTIdSYRMATIKIdPARAKLITIKIdYPOKRISISdYPOKRISIS DIPLIdKREMASTIdAPESO EKFONITIKONdEXO EKFONIT
IKONdTELEIAdKENTIMATAdAPOSTROFOSdAPOSTROFOS DIPLIdSYNEVMAdTHITAdOLIGON ARCHAIONdGORGON ARCHAIONdPSIL
ONdCHAMILONdVATHYdISON ARCHAIONdKENTIMA ARCHAIONdKENTIMATA ARCHAIONdSAXIMATAdPARICHONdSTAVROS APODEX
IAdOXEIAI ARCHAIONdVAREIAI ARCHAIONdAPODERMA ARCHAIONdAPOTHEMAdKLASMAdREVMAdPIASMA ARCHAIONdTINAGMAd
ANATRICHISMAdSEISMAdSYNAGMA ARCHAIONeMETA STAVROUdOYRANISMA ARCHAIONdTHEMAdLEMOIdDYOdTRIAdTESSERAdKR
ATIMATAdAPESO EXO NEOdFTHORA ARCHAIONdIMIFTHORAdTROMIKON ARCHAIONdKATAVA TROMIKONdPELASTONdPSIFISTON
dKONTEVMAdCHOREVMA ARCHAIONdRAPISMAdPARAKALESMA ARCHAIONdPARAKLITIKI ARCHAIONdICHADINdNANAdPETASMAdK
ONTEVMA ALLOdTROMIKON ALLOdSTRAGGISMATAdGRONTHISMATAdISON NEOdOLIGON NEOdOXEIA NEOdPETASTIdKOUFISMAd
PETASTOKOUFISMAdKRATIMOKOUFISMAdPELASTON NEOdKENTIMATA NEO ANOdKENTIMA NEO ANOdYPSILIdAPOSTROFOS NEO
dAPOSTROFOI SYNDESMOS NEOdYPORROIdKRATIMOYPORROONdELAFRONdCHAMILIdMIKRON ISONdVAREIA NEOdPIASMA NEOd
PSIFISTON NEOdOMALONdANTIKENOMAdLYGISMAdPARAKLITIKI NEOdPARAKALESMA NEOdETERON PARAKALESMAdKYLISMAdA
NTIKENOKYLISMAdTROMIKON NEOdEKSTREPTONdSYNAGMA NEOdSYRMAdCHOREVMA NEOdEPEGERMAdSEISMA NEOdXIRON KLAS
MAdTROMIKOPSIFISTONdPSIFISTOLYGISMAdTROMIKOLYGISMAdTROMIKOPARAKALESMAdPSIFISTOPARAKALESMAdTROMIKOSYN
AGMAdPSIFISTOSYNAGMAdGORGOSYNTHETONdARGOSYNTHETONdETERON ARGOSYNTHETONdOYRANISMA NEOdTHEMATISMOS ESO
eEXOdTHEMA APLOUNdTHES KAI APOTHESdKATAVASMAdENDOFONONdYFEN KATOeANOdSTAVROSdKLASMA ANOdDIPLI ARCHAI
ONdKRATIMA ARCHAIONeALLOeNEOdAPODERMA NEOdAPLIdDIPLIdTRIPLIdTETRAPLIdKORONISdLEIMMA ENOS CHRONOUeDY
O CHRONONeTRION CHRONONeTESSARON CHRONONeIMISEOS CHRONOUdGORGON NEO ANOePARESTIGMENON ARISTERAfDEXIA
dDIGORGONdDIGORGON PARESTIGMENON ARISTERA KATOgANOfDEXIAdTRIGORGONdARGONdIMIDIARGONdDIARGONdAGOGI PO
LI ARGIeARGOTERIeARGIeMETRIAeMESIeGORGIeGORGOTERIePOLI GORGIdMARTYRIA PROTOS ICHOSeALLI PROTOS ICHOS
eDEYTEROS ICHOSeALLI DEYTEROS ICHOSeTRITOS ICHOSeTRIFONIASeTETARTOS ICHOSfLEGETOS ICHOSeLEGETOS ICHO
SePLAGIOS ICHOSdISAKIA TELOUS ICHIMATOSdAPOSTROFOI TELOUS ICHIMATOSdFANEROSIS TETRAFONIASeMONOFONIAS
eDIFONIASdMARTYRIA VARYS ICHOSePROTOVARYS ICHOSePLAGIOS TETARTOS ICHOSdGORTHMIKON N APLOUNfDIPLOUNdE
NARXIS KAI FTHORA VOUdIMIFONONdIMIFTHORONdFTHORA ARCHAION DEYTEROU ICHOUeDIATONIKI PAfNANAeNAOS ICHO
SeDIATONIKI DIeSKLIRON DIATONON DIeDIATONIKI KEfZOfNI KATOgANOeMALAKON CHROMA DIFONIASgMONOFONIASdFH
TORA SKLIRON CHROMA VASISdFTHORA SKLIRON CHROMA SYNAFIeNENANOdCHROA ZYGOSeKLITONeSPATHIdFTHORA I YFE
SIS TETARTIMORIONeENARMONIOS ANTIFONIAdYFESIS TRITIMORIONdDIESIS TRITIMORIONeTETARTIMORIONeAPLI DY
O DODEKATAeMONOGRAMMOS TESSERA DODEKATAeDIGRAMMOS EX DODEKATAeTRIGRAMMOS OKTO DODEKATAdYFESIS APLI D
YO DODEKATAeMONOGRAMMOS TESSERA DODEKATAeDIGRAMMOS EX DODEKATAeTRIGRAMMOS OKTO DODEKATAdGENIKI DIESI
SeYFESISdDIASTOLI APLI MIKRIfMEGALIeDIPLIeTHESEOSdSIMANSIS THESEOSeTHESEOS DISIMOUfTRISIMOUfTETRASIM
OUeARSEOSeARSEOS DISIMOUfTRISIMOUfTETRASIMOUdDIGRAMMA GGdDIFTOGGOS OUdSTIGMAdARKTIKO PAeVOUeGAeDIeKE
eZOeNIdKENTIMATA NEO MESOdKENTIMA NEO MESOdKENTIMATA NEO KATOdKENTIMA NEO KATOdKLASMA KATOdGORGON NE
O KATO=1D100aMUSICAL SYMBOL SINGLE BARLINEcDOUBLE BARLINEcFINAL BARLINEcREVERSE FINAL BARLINEcDASHE
D BARLINEcSHORT BARLINEcLEFT REPEAT SIGNcRIGHT REPEAT SIGNcREPEAT DOTScDAL SEGNOcDA CAPOcSEGNOcCODAc
REPEATED FIGURE-1e2e3cFERMATAcFERMATA BELOWcBREATH MARKcCAESURAcBRACEcBRACKETcONE-LINE STAFFcTWO-LIN
E STAFFcTHREE-LINE STAFFcFOUR-LINE STAFFcFIVE-LINE STAFFcSIX-LINE STAFFdSTRING FRETBOARDcFOUR-STRIN
G FRETBOARDcG CLEFdCLEF OTTAVA ALTAfBASSAcC CLEFcF CLEFdCLEF OTTAVA ALTAfBASSAcDRUM CLEF-1e2=1D129aM
USICAL SYMBOL MULTIPLE MEASURE RESTcDOUBLE SHARPdFLATcFLAT UPdDOWNcNATURAL UPdDOWNcSHARP UPdDOWNcQUA
RTER TONE SHARPeFLATcCOMMON TIMEcCUT TIMEcOTTAVA ALTAdBASSAcQUINDICESIMA ALTAdBASSAcMULTI RESTcWHOL
E RESTcHALF RESTcQUARTER RESTcEIGHTH RESTcSIXTEENTH RESTcTHIRTY-SECOND RESTcSIXTY-FOURTH RESTcONE HU
NDRED TWENTY-EIGHTH RESTcX NOTEHEADcPLUS NOTEHEADcCIRCLE X NOTEHEADcSQUARE NOTEHEAD WHITEeBLACKcTRIA
NGLE NOTEHEAD UP WHITEfBLACKeLEFT WHITEfBLACKeRIGHT WHITEfBLACKeDOWN WHITEfBLACKeUP RIGHT WHITEgBLAC
KcMOON NOTEHEAD WHITEeBLACKcTRIANGLE-ROUND NOTEHEAD DOWN WHITEgBLACKcPARENTHESIS NOTEHEADcVOID NOTEH
EADcNOTEHEAD BLACKcNULL NOTEHEADcCLUSTER NOTEHEAD WHITEeBLACKcBREVEcWHOLE NOTEcHALF NOTEcQUARTER NOT
EcEIGHTH NOTEcSIXTEENTH NOTEcTHIRTY-SECOND NOTEcSIXTY-FOURTH NOTEcONE HUNDRED TWENTY-EIGHTH NOTEcCOM
BINING STEMdSPRECHGESANG STEMdTREMOLO-1e2e3cFINGERED TREMOLO-1e2e3cCOMBINING AUGMENTATION DOTdFLAG-1
e2e3e4e5cBEGIN BEAMcEND BEAMcBEGIN TIEcEND TIEcBEGIN SLURcEND SLURcBEGIN PHRASEcEND PHRASEcCOMBININ
G ACCENTdSTACCATOdTENUTOdSTACCATISSIMOdMARCATOdMARCATO-STACCATOdACCENT-STACCATOdLOUREcARPEGGIATO UPd
DOWNcCOMBINING DOITdRIPdFLIPdSMEARdBENDdDOUBLE TONGUEdTRIPLE TONGUEcRINFORZANDOcSUBITOcZcPIANOcMEZZO
cFORTEcCRESCENDOcDECRESCENDOcGRACE NOTE SLASHeNO SLASHcTRcTURNcINVERTED TURNcTURN SLASHdUPcORNAMEN
T STROKE-1e2e3e4e5e6e7e8e9e10e11cHAUPTSTIMMEcNEBENSTIMMEcEND OF STIMMEcDEGREE SLASHcCOMBINING DOWN B
OWdUP BOWdHARMONICdSNAP PIZZICATOcPEDAL MARKdUP MARKcHALF PEDAL MARKcGLISSANDO UPdDOWNcWITH FINGERNA
ILScDAMPcDAMP ALLcMAXIMAcLONGAcBREVIScSEMIBREVIS WHITEdBLACKcMINIMAcMINIMA BLACKcSEMIMINIMA WHITEdBL
ACKcFUSA WHITEdBLACKcLONGA PERFECTA RESTdIMPERFECTA RESTcBREVIS RESTcSEMIBREVIS RESTcMINIMA RESTcSEM
IMINIMA RESTcTEMPUS PERFECTUM CUM PROLATIONE PERFECTAgIMPERFECTAgPERFECTA DIMINUTION-1dIMPERFECTUM C
UM PROLATIONE PERFECTAgIMPERFECTAgIMPERFECTA DIMINUTION-1i2i3cCROIXcGREGORIAN C CLEFdF CLEFcSQUARE B
cVIRGAcPODATUScCLIVIScSCANDICUScCLIMACUScTORCULUScPORRECTUScPORRECTUS FLEXUScSCANDICUS FLEXUScTORCUL
US RESUPINUScPES SUBPUNCTIScKIEVAN C CLEFdEND OF PIECEdFINAL NOTEdRECITATIVE MARKdWHOLE NOTEdHALF NO
TEdQUARTER NOTE STEM DOWNgUPdEIGHTH NOTE STEM DOWNgUPdFLAT SIGNcSORIcKORON=1D200aGREEK VOCAL NOTATIO
N SYMBOL-1e2e3e4e5e6e7e8e9e10e11e12e13e14e15e16e17e18e19e20e21e22e23e24e50e51e52e53e54bINSTRUMENTA
L NOTATION SYMBOL-1e2e4e5e7e8e11e12e13e14e17e18e19e23e24e25e26e27e29e30e32e36e37e38e39e40e42e43e45e4
7e48e49e50e51e52e53e54aCOMBINING GREEK MUSICAL TRISEMEdTETRASEMEdPENTASEMEaGREEK MUSICAL LEIMMA=1D2E
0aMAYAN NUMERAL ZEROcONEcTWOcTHREEcFOURcFIVEcSIXcSEVENcEIGHTcNINEcTENcELEVENcTWELVEcTHIRTEENcFOURTEE
NcFIFTEENcSIXTEENcSEVENTEENcEIGHTEENcNINETEEN=1D300aMONOGRAM FOR EARTHaDIGRAM FOR HEAVENLY EARTHcHUM
AN EARTHcEARTHLY HEAVENdHUMANcEARTHaTETRAGRAM FOR CENTREcFULL CIRCLEcMIREDcBARRIERcKEEPING SMALLcCON
TRARIETYcASCENTcOPPOSITIONcBRANCHING OUTcDEFECTIVENESS OR DISTORTIONcDIVERGENCEcYOUTHFULNESScINCREAS
EcPENETRATIONcREACHcCONTACTcHOLDING BACKcWAITINGcFOLLOWINGcADVANCEcRELEASEcRESISTANCEcEASEcJOYcCONTE
NTIONcENDEAVOURcDUTIEScCHANGEcDECISIVENESScBOLD RESOLUTIONcPACKINGcLEGIONcCLOSENESScKINSHIPcGATHERIN
GcSTRENGTHcPURITYcFULLNESScRESIDENCEcLAW OR MODELcRESPONSEcGOING TO MEETcENCOUNTERScSTOVEcGREATNESSc
ENLARGEMENTcPATTERNcRITUALcFLIGHTcVASTNESS OR WASTINGcCONSTANCYcMEASUREcETERNITYcUNITYcDIMINISHMENTc
CLOSED MOUTHcGUARDEDNESScGATHERING INcMASSINGcACCUMULATIONcEMBELLISHMENTcDOUBTcWATCHcSINKINGcINNERcD
EPARTUREcDARKENINGcDIMMINGcEXHAUSTIONcSEVERANCEcSTOPPAGEcHARDNESScCOMPLETIONcCLOSUREcFAILUREcAGGRAVA
TIONcCOMPLIANCEcON THE VERGEcDIFFICULTIEScLABOURINGcFOSTERING=1D360aCOUNTING ROD UNIT DIGIT ONEeTWOe
THREEeFOUReFIVEeSIXeSEVENeEIGHTeNINEcTENS DIGIT ONEeTWOeTHREEeFOUReFIVEeSIXeSEVENeEIGHTeNINEaIDEOGRA
PHIC TALLY MARK ONEdTWOdTHREEdFOURdFIVEaTALLY MARK ONEcFIVE=1D400aMATHEMATICAL BOLD CAPITAL AdBdCdDd
EdFdGdHdIdJdKdLdMdNdOdPdQdRdSdTdUdVdWdXdYdZcSMALL AdBdCdDdEdFdGdHdIdJdKdLdMdNdOdPdQdRdSdTdUdVdWdXdYd
ZbITALIC CAPITAL AdBdCdDdEdFdGdHdIdJdKdLdMdNdOdPdQdRdSdTdUdVdWdXdYdZcSMALL AdBdCdDdEdFdG=1D456aMATHE
MATICAL ITALIC SMALL IdJdKdLdMdNdOdPdQdRdSdTdUdVdWdXdYdZbBOLD ITALIC CAPITAL AeBeCeDeEeFeGeHeIeJeKeL
eMeNeOePeQeReSeTeUeVeWeXeYeZdSMALL AeBeCeDeEeFeGeHeIeJeKeLeMeNeOePeQeReSeTeUeVeWeXeYeZbSCRIPT CAPITA
L A=1D49EaMATHEMATICAL SCRIPT CAPITAL CdD=1D4A2aMATHEMATICAL SCRIPT CAPITAL G=1D4A5aMATHEMATICAL SCR
IPT CAPITAL JdK=1D4A9aMATHEMATICAL SCRIPT CAPITAL NdOdPdQ=1D4AEaMATHEMATICAL SCRIPT CAPITAL SdTdUdVd
WdXdYdZcSMALL AdBdCdD=1D4BBaMATHEMATICAL SCRIPT SMALL F=1D4BDaMATHEMATICAL SCRIPT SMALL HdIdJdKdLdMd
N=1D4C5aMATHEMATICAL SCRIPT SMALL PdQdRdSdTdUdVdWdXdYdZbBOLD SCRIPT CAPITAL AeBeCeDeEeFeGeHeIeJeKeLe
MeNeOePeQeReSeTeUeVeWeXeYeZdSMALL AeBeCeDeEeFeGeHeIeJeKeLeMeNeOePeQeReSeTeUeVeWeXeYeZbFRAKTUR CAPITA
L AdB=1D507aMATHEMATICAL FRAKTUR CAPITAL DdEdFdG=1D50DaMATHEMATICAL FRAKTUR CAPITAL JdKdLdMdNdOdPdQ=
1D516aMATHEMATICAL FRAKTUR CAPITAL SdTdUdVdWdXdY=1D51EaMATHEMATICAL FRAKTUR SMALL AdBdCdDdEdFdGdHdId
JdKdLdMdNdOdPdQdRdSdTdUdVdWdXdYdZbDOUBLE-STRUCK CAPITAL AeB=1D53BaMATHEMATICAL DOUBLE-STRUCK CAPITA
L DeEeFeG=1D540aMATHEMATICAL DOUBLE-STRUCK CAPITAL IeJeKeLeM=1D546aMATHEMATICAL DOUBLE-STRUCK CAPITA
L O=1D54AaMATHEMATICAL DOUBLE-STRUCK CAPITAL SeTeUeVeWeXeY=1D552aMATHEMATICAL DOUBLE-STRUCK SMALL Ae
BeCeDeEeFeGeHeIeJeKeLeMeNeOePeQeReSeTeUeVeWeXeYeZbBOLD FRAKTUR CAPITAL AeBeCeDeEeFeGeHeIeJeKeLeMeNeO
ePeQeReSeTeUeVeWeXeYeZdSMALL AeBeCeDeEeFeGeHeIeJeKeLeMeNeOePeQeReSeTeUeVeWeXeYeZbSANS-SERIF CAPITA
L AeBeCeDeEeFeGeHeIeJeKeLeMeNeOePeQeReSeTeUeVeWeXeYeZdSMALL AeBeCeDeEeFeGeHeIeJeKeLeMeNeOePeQeReSeTe
UeVeWeXeYeZdBOLD CAPITAL AfBfCfDfEfFfGfHfIfJfKfLfMfNfOfPfQfRfSfTfUfVfWfXfYfZeSMALL AfBfCfDfEfFfGfHfI
fJfKfLfMfNfOfPfQfRfSfTfUfVfWfXfYfZdITALIC CAPITAL AfBfCfDfEfFfGfHfIfJfKfLfMfNfOfPfQfRfSfTfUfVfWfXfYf
ZeSMALL AfBfCfDfEfFfGfHfIfJfKfLfMfNfOfPfQfRfSfTfUfVfWfXfYfZdBOLD ITALIC CAPITAL AgBgCgDgEgFgGgHgIgJg
KgLgMgNgOgPgQgRgSgTgUgVgWgXgYgZfSMALL AgBgCgDgEgFgGgHgIgJgKgLgMgNgOgPgQgRgSgTgUgVgWgXgYgZbMONOSPAC
E CAPITAL AdBdCdDdEdFdGdHdIdJdKdLdMdNdOdPdQdRdSdTdUdVdWdXdYdZcSMALL AdBdCdDdEdFdGdHdIdJdKdLdMdNdOdPd
QdRdSdTdUdVdWdXdYdZbITALIC SMALL DOTLESS IeJ=1D6A8aMATHEMATICAL BOLD CAPITAL ALPHAdBETAdGAMMAdDELTAd
EPSILONdZETAdETAdTHETAdIOTAdKAPPAdLAMDAdMUdNUdXIdOMICRONdPIdRHOdTHETA SYMBOLdSIGMAdTAUdUPSILONdPHIdC
HIdPSIdOMEGAcNABLAcSMALL ALPHAdBETAdGAMMAdDELTAdEPSILONdZETAdETAdTHETAdIOTAdKAPPAdLAMDAdMUdNUdXIdOMI
CRONdPIdRHOdFINAL SIGMAdSIGMAdTAUdUPSILONdPHIdCHIdPSIdOMEGAcPARTIAL DIFFERENTIALcEPSILON SYMBOLcTHET
A SYMBOLcKAPPA SYMBOLcPHI SYMBOLcRHO SYMBOLcPI SYMBOLbITALIC CAPITAL ALPHAdBETAdGAMMAdDELTAdEPSILONd
ZETAdETAdTHETAdIOTAdKAPPAdLAMDAdMUdNUdXIdOMICRONdPIdRHOdTHETA SYMBOLdSIGMAdTAUdUPSILONdPHIdCHIdPSIdO
MEGAcNABLAcSMALL ALPHAdBETAdGAMMAdDELTAdEPSILONdZETAdETAdTHETAdIOTAdKAPPAdLAMDAdMUdNUdXIdOMICRONdPId
RHOdFINAL SIGMAdSIGMAdTAUdUPSILONdPHIdCHIdPSIdOMEGAcPARTIAL DIFFERENTIALcEPSILON SYMBOLcTHETA SYMBOL
cKAPPA SYMBOLcPHI SYMBOLcRHO SYMBOLcPI SYMBOLbBOLD ITALIC CAPITAL ALPHAeBETAeGAMMAeDELTAeEPSILONeZET
AeETAeTHETAeIOTAeKAPPAeLAMDAeMUeNUeXIeOMICRONePIeRHOeTHETA SYMBOLeSIGMAeTAUeUPSILONePHIeCHIePSIeOMEG
AdNABLAdSMALL ALPHAeBETAeGAMMAeDELTAeEPSILONeZETAeETAeTHETAeIOTAeKAPPAeLAMDAeMUeNUeXIeOMICRONePIeRHO
eFINAL SIGMAeSIGMAeTAUeUPSILONePHIeCHIePSIeOMEGAdPARTIAL DIFFERENTIALdEPSILON SYMBOLdTHETA SYMBOLdKA
PPA SYMBOLdPHI SYMBOLdRHO SYMBOLdPI SYMBOLbSANS-SERIF BOLD CAPITAL ALPHAfBETAfGAMMAfDELTAfEPSILONfZE
TAfETAfTHETAfIOTAfKAPPAfLAMDAfMUfNUfXIfOMICRONfPIfRHOfTHETA SYMBOLfSIGMAfTAUfUPSILONfPHIfCHIfPSIfOME
GAeNABLAeSMALL ALPHAfBETAfGAMMAfDELTAfEPSILONfZETAfETAfTHETAfIOTAfKAPPAfLAMDAfMUfNUfXIfOMICRONfPIfRH
OfFINAL SIGMAfSIGMAfTAUfUPSILONfPHIfCHIfPSIfOMEGAePARTIAL DIFFERENTIALeEPSILON SYMBOLeTHETA SYMBOLeK
APPA SYMBOLePHI SYMBOLeRHO SYMBOLePI SYMBOLeITALIC CAPITAL ALPHAgBETAgGAMMAgDELTAgEPSILONgZETAgETAgT
HETAgIOTAgKAPPAgLAMDAgMUgNUgXIgOMICRONgPIgRHOgTHETA SYMBOLgSIGMAgTAUgUPSILONgPHIgCHIgPSIgOMEGAfNABLA
fSMALL ALPHAgBETAgGAMMAgDELTAgEPSILONgZETAgETAgTHETAgIOTAgKAPPAgLAMDAgMUgNUgXIgOMICRONgPIgRHOgFINA
L SIGMAgSIGMAgTAUgUPSILONgPHIgCHIgPSIgOMEGAfPARTIAL DIFFERENTIALfEPSILON SYMBOLfTHETA SYMBOLfKAPPA S
YMBOLfPHI SYMBOLfRHO SYMBOLfPI SYMBOLbBOLD CAPITAL DIGAMMAcSMALL DIGAMMA=1D7CEaMATHEMATICAL BOLD DIG
IT ZEROdONEdTWOdTHREEdFOURdFIVEdSIXdSEVENdEIGHTdNINEbDOUBLE-STRUCK DIGIT ZEROeONEeTWOeTHREEeFOUReFIV
EeSIXeSEVENeEIGHTeNINEbSANS-SERIF DIGIT ZEROeONEeTWOeTHREEeFOUReFIVEeSIXeSEVENeEIGHTeNINEdBOLD DIGI
T ZEROfONEfTWOfTHREEfFOURfFIVEfSIXfSEVENfEIGHTfNINEbMONOSPACE DIGIT ZEROdONEdTWOdTHREEdFOURdFIVEdSIX
dSEVENdEIGHTdNINEaSIGNWRITING HAND-FIST INDEXcCIRCLE INDEXcCUP INDEXcOVAL INDEXcHINGE INDEXcANGLE IN
DEXcFIST INDEX BENTcCIRCLE INDEX BENTcFIST THUMB UNDER INDEX BENTdINDEX RAISED KNUCKLEeCUPPEDeHINGED
eHINGED LOWcCIRCLE INDEX HINGEcFIST INDEX MIDDLEcCIRCLE INDEX MIDDLEcFIST INDEX MIDDLE BENTfRAISED K
NUCKLESfHINGEDeUP MIDDLE HINGEDeHINGED MIDDLE UPeMIDDLE CONJOINEDfCONJOINED INDEX BENTgMIDDLE BENTgC
UPPEDgHINGEDfCROSSEDcCIRCLE INDEX MIDDLE CROSSEDcFIST MIDDLE BENT OVER INDEXdINDEX BENT OVER MIDDLEe
MIDDLE THUMBcCIRCLE INDEX MIDDLE THUMBcFIST INDEX MIDDLE STRAIGHT THUMB BENTfBENT THUMB STRAIGHTfTHU
MB BENTfHINGED SPREAD THUMB SIDEeUP MIDDLE HINGED THUMB SIDEiCONJOINEDeHINGED MIDDLE UP THUMB SIDEeM
IDDLE UP SPREAD THUMB FORWARDfTHUMB CUPPEDgCIRCLEDgHOOKEDgHINGEDdTHUMB BETWEEN INDEX MIDDLE STRAIGHT
dINDEX MIDDLE CONJOINED THUMB SIDEhSIDE CONJOINEDiBENTdMIDDLE THUMB HOOKED INDEX UPdINDEX THUMB HOOK
ED MIDDLE UPeMIDDLE CONJOINED HINGED THUMB SIDEfCROSSED THUMB SIDEfCONJOINED THUMB FORWARDgCUPPED TH
UMB FORWARDdMIDDLE THUMB CUPPED INDEX UPdINDEX THUMB CUPPED MIDDLE UPdMIDDLE THUMB CIRCLED INDEX UPh
HINGEDdINDEX THUMB ANGLED OUT MIDDLE UPgIN MIDDLE UPfCIRCLED MIDDLE UPeMIDDLE THUMB CONJOINED HINGED
gANGLED OUTgANGLEDdMIDDLE THUMB ANGLED OUT INDEX UPiCROSSEDgINDEX UPdINDEX THUMB HOOKED MIDDLE HINGE
DcFLAT FOUR FINGERSeFINGERS BENTfHINGEDfCONJOINEDfCONJOINED SPLITcCLAW FOUR FINGERS CONJOINEDcFIST F
OUR FINGERS CONJOINED BENTcHINGE FOUR FINGERS CONJOINEDcFLAT FIVE FINGERS SPREADdHEEL FIVE FINGERS S
PREADdFIVE FINGERS SPREAD FOUR BENTdHEEL FIVE FINGERS SPREAD FOUR BENTdFIVE FINGERS SPREAD BENTdHEE
L FIVE FINGERS SPREAD BENTdFIVE FINGERS SPREAD THUMB FORWARDcCUP FIVE FINGERS SPREADfSPREAD OPENcHIN
GE FIVE FINGERS SPREAD OPENcOVAL FIVE FINGERS SPREADcFLAT FIVE FINGERS SPREAD HINGEDgHINGED THUMB SI
DEhNO THUMBcFLATcFLAT BETWEEN PALM FACINGSdHEELdTHUMB SIDEdHEEL THUMB SIDEdTHUMB BENTeFORWARDdSPLI
T INDEX THUMB SIDEeCENTREeCENTRE THUMB SIDEgSIDE BENTeLITTLEcCLAWcCLAW THUMB SIDEdNO THUMBdTHUMB FOR
WARDcHOOK CURLICUEcHOOKcCUP OPENcCUPcCUP OPEN THUMB SIDEdTHUMB SIDEdOPEN NO THUMBdNO THUMBdOPEN THUM
B FORWARDdTHUMB FORWARDcCURLICUE OPENcCURLICUEcCIRCLEcOVALcOVAL THUMB SIDEdNO THUMBdTHUMB FORWARDcHI
NGE OPENdOPEN THUMB FORWARDcHINGEcHINGE SMALLdOPEN THUMB SIDEdTHUMB SIDEdOPEN NO THUMBdNO THUMBdTHUM
B SIDE TOUCHING INDEXeBETWEEN MIDDLE RINGcANGLEcFIST INDEX MIDDLE RINGcCIRCLE INDEX MIDDLE RINGcHING
E INDEX MIDDLE RINGcANGLE INDEX MIDDLE RINGcHINGE LITTLEcFIST INDEX MIDDLE RING BENTgCONJOINEDcHING
E INDEX MIDDLE RING CONJOINEDcFIST LITTLE DOWNeDOWN RIPPLE STRAIGHTgCURVEDfOTHERS CIRCLEDeUPdTHUMB U
NDER LITTLE UPcCIRCLE LITTLE UPcOVAL LITTLE UPcANGLE LITTLE UPcFIST LITTLE RAISED KNUCKLEeBENTeTOUCH
ES THUMBeTHUMBcHINGE LITTLE THUMBcFIST LITTLE INDEX THUMBcHINGE LITTLE INDEX THUMBcANGLE LITTLE INDE
X THUMB INDEX THUMB OUThTHUMBcFIST LITTLE INDEXcCIRCLE LITTLE INDEXcHINGE LITTLE INDEXcANGLE LITTL
E INDEXcFIST INDEX MIDDLE LITTLEcCIRCLE INDEX MIDDLE LITTLEcHINGE INDEX MIDDLE LITTLEdRINGcANGLE IND
EX MIDDLE LITTLEcFIST INDEX MIDDLE CROSS LITTLEcCIRCLE INDEX MIDDLE CROSS LITTLEcFIST RING DOWNcHING
E RING DOWN INDEX THUMB HOOK MIDDLEcANGLE RING DOWN MIDDLE THUMB INDEX CROSScFIST RING UPeRAISED KNU
CKLEeLITTLEcCIRCLE RING LITTLEcOVAL RING LITTLEcANGLE RING LITTLEcFIST RING MIDDLEeMIDDLE CONJOINEDf
RAISED KNUCKLESeINDEXeTHUMBcHOOK RING THUMBcFIST INDEX RING LITTLEcCIRCLE INDEX RING LITTLEcCURLICU
E INDEX RING LITTLE ONcHOOK INDEX RING LITTLE OUTgINgUNDERcCUP INDEX RING LITTLEcHINGE INDEX RING LI
TTLEcANGLE INDEX RING LITTLE OUTfLITTLEcFIST MIDDLE DOWNcHINGE MIDDLEcFIST MIDDLE UPcCIRCLE MIDDLE U
PcFIST MIDDLE RAISED KNUCKLEeUP THUMB SIDEcHOOK MIDDLE THUMBcFIST MIDDLE THUMB LITTLEeLITTLEeRING LI
TTLEcCIRCLE MIDDLE RING LITTLEcCURLICUE MIDDLE RING LITTLE ONcCUP MIDDLE RING LITTLEcHINGE MIDDLE RI
NG LITTLEcANGLE MIDDLE RING LITTLE OUTgINfLITTLEcCIRCLE MIDDLE RING LITTLE BENTcCLAW MIDDLE RING LIT
TLE CONJOINEDgCONJOINED SIDEcHOOK MIDDLE RING LITTLE CONJOINED OUThINgCONJOINEDcHINGE INDEX HINGEDcF
IST INDEX THUMB SIDEcHINGE INDEX THUMB SIDEcFIST INDEX THUMB SIDE THUMB DIAGONALhCONJOINEDhBENTgINDE
X BENTgBOTH BENTgINDEX HINGEfFORWARD INDEX STRAIGHThBENTfHOOKfCURLICUEfCURVE THUMB INSIDEcCLAW INDE
X THUMB CURVE THUMB INSIDEcFIST INDEX THUMB CURVE THUMB UNDERfCIRCLEcCUP INDEX THUMBeTHUMB OPENcHING
E INDEX THUMB OPENfLARGEeTHUMBeTHUMB SMALLcANGLE INDEX THUMB OUTfINeTHUMBcFIST THUMBdTHUMB HEELeSID
E DIAGONALfCONJOINEDfBENTeFORWARDeBETWEEN INDEX MIDDLEfMIDDLE RINGfRING LITTLEeUNDER TWO FINGERSeOVE
R TWO FINGERSeUNDER THREE FINGERSfFOUR FINGERSeOVER FOUR RAISED KNUCKLEScFISTcFIST HEELbTOUCH SINGLE
cMULTIPLEcBETWEENbGRASP SINGLEcMULTIPLEcBETWEENbSTRIKE SINGLEcMULTIPLEcBETWEENbBRUSH SINGLEcMULTIPLE
cBETWEENbRUB SINGLEcMULTIPLEcBETWEENbSURFACE SYMBOLScBETWEENbSQUEEZE LARGE SINGLEcSMALL SINGLEcLARG
E MULTIPLEcSMALL MULTIPLEcSEQUENTIALbFLICK LARGE SINGLEcSMALL SINGLEcLARGE MULTIPLEcSMALL MULTIPLEcS
EQUENTIALbSQUEEZE FLICK ALTERNATINGbMOVEMENT-HINGE UP DOWN LARGEfSMALLeSEQUENTIALdDOWN SEQUENTIALdU
P DOWN ALTERNATING LARGEgSMALLdSIDE TO SIDE SCISSORScWALLPLANE FINGER CONTACTcFLOORPLANE FINGER CONT
ACTcWALLPLANE SINGLE STRAIGHT SMALLfMEDIUMfLARGEfLARGESTeWRIST FLEXdDOUBLE STRAIGHTeWRIST FLEXeALTER
NATINGeALTERNATING WRIST FLEXdCROSSdTRIPLE STRAIGHT MOVEMENTeWRIST FLEXeALTERNATINGeALTERNATING WRIS
T FLEXdBEND SMALLeMEDIUMeLARGEdCORNER SMALLeMEDIUMeLARGEeROTATIONdCHECK SMALLeMEDIUMeLARGEdBOX SMALL
eMEDIUMeLARGEdZIGZAG SMALLeMEDIUMeLARGEdPEAKS SMALLeMEDIUMeLARGEbTRAVEL-WALLPLANE ROTATION-WALLPLAN
E SINGLEfDOUBLEfALTERNATINGeFLOORPLANE SINGLEfDOUBLEfALTERNATINGdSHAKINGdARM SPIRAL SINGLEfDOUBLEfTR
IPLEbMOVEMENT-DIAGONAL AWAY SMALLeMEDIUMeLARGEeLARGESTdTOWARDS SMALLeMEDIUMeLARGEeLARGESTdBETWEEN AW
AY SMALLfMEDIUMfLARGEfLARGESTeTOWARDS SMALLfMEDIUMfLARGEfLARGESTcFLOORPLANE SINGLE STRAIGHT SMALLfME
DIUMfLARGEfLARGESTeWRIST FLEXdDOUBLE STRAIGHTeWRIST FLEXeALTERNATINGeALTERNATING WRIST FLEXdCROSSdTR
IPLE STRAIGHT MOVEMENTeWRIST FLEXeALTERNATING MOVEMENTfWRIST FLEXdBENDdCORNER SMALLeMEDIUMeLARGEdCHE
CKdBOX SMALLeMEDIUMeLARGEdZIGZAG SMALLeMEDIUMeLARGEdPEAKS SMALLeMEDIUMeLARGEbTRAVEL-FLOORPLANE ROTAT
ION-FLOORPLANE SINGLEfDOUBLEfALTERNATINGeWALLPLANE SINGLEfDOUBLEfALTERNATINGdSHAKINGbMOVEMENT-WALLPL
ANE CURVE QUARTER SMALLfMEDIUMfLARGEfLARGESTeHALF-CIRCLE SMALLgMEDIUMgLARGEgLARGESTeTHREE-QUARTER CI
RCLE SMALLhMEDIUMdHUMP SMALLeMEDIUMeLARGEdLOOP SMALLeMEDIUMeLARGEeSMALL DOUBLEdWAVE CURVE DOUBLE SMA
LLgMEDIUMgLARGEfTRIPLE SMALLgMEDIUMgLARGEdCURVE THEN STRAIGHTdCURVED CROSS SMALLfMEDIUMbROTATION-WAL
LPLANE SINGLEdDOUBLEdALTERNATEbMOVEMENT-WALLPLANE SHAKINGdCURVE HITTING FRONT WALLdHUMP HITTING FRON
T WALLdLOOP HITTING FRONT WALLdWAVE HITTING FRONT WALLbROTATION-WALLPLANE SINGLE HITTING FRONT WALLd
DOUBLE HITTING FRONT WALLdALTERNATING HITTING FRONT WALLbMOVEMENT-WALLPLANE CURVE HITTING CHESTdHUM
P HITTING CHESTdLOOP HITTING CHESTdWAVE HITTING CHESTbROTATION-WALLPLANE SINGLE HITTING CHESTdDOUBL
E HITTING CHESTdALTERNATING HITTING CHESTbMOVEMENT-WALLPLANE WAVE DIAGONAL PATH SMALLgMEDIUMgLARGEcF
LOORPLANE CURVE HITTING CEILING SMALLgLARGEdHUMP HITTING CEILING SMALL DOUBLEgLARGE DOUBLEgSMALL TRI
PLEgLARGE TRIPLEdLOOP HITTING CEILING SMALL SINGLEgLARGE SINGLEgSMALL DOUBLEgLARGE DOUBLEdWAVE HITTI
NG CEILING SMALLgLARGEbROTATION-FLOORPLANE SINGLE HITTING CEILINGdDOUBLE HITTING CEILINGdALTERNATIN
G HITTING CEILINGbMOVEMENT-FLOORPLANE CURVE HITTING FLOOR SMALLgLARGEdHUMP HITTING FLOOR SMALL DOUBL
EgLARGE DOUBLEgTRIPLE SMALL TRIPLEhLARGE TRIPLEdLOOP HITTING FLOOR SMALL SINGLEgLARGE SINGLEgSMALL D
OUBLEgLARGE DOUBLEdWAVE HITTING FLOOR SMALLgLARGEbROTATION-FLOORPLANE SINGLE HITTING FLOORdDOUBLE HI
TTING FLOORdALTERNATING HITTING FLOORbMOVEMENT-FLOORPLANE CURVE SMALLeMEDIUMeLARGEeLARGESTeCOMBINEDd
HUMP SMALLdLOOP SMALLdWAVE SNAKEeSMALLeLARGEbROTATION-FLOORPLANE SINGLEdDOUBLEdALTERNATINGbMOVEMENT-
FLOORPLANE SHAKING PARALLELcWALLPLANE ARM CIRCLE SMALL SINGLEfMEDIUM SINGLEfSMALL DOUBLEfMEDIUM DOUB
LEcFLOORPLANE ARM CIRCLE HITTING WALL SMALL SINGLEhMEDIUM SINGLEhLARGE SINGLEhSMALL DOUBLEhMEDIUM DO
UBLEhLARGE DOUBLEcWALLPLANE WRIST CIRCLE FRONT SINGLEgDOUBLEcFLOORPLANE WRIST CIRCLE HITTING WALL SI
NGLEhDOUBLEcWALLPLANE FINGER CIRCLES SINGLEfDOUBLEcFLOORPLANE FINGER CIRCLES HITTING WALL SINGLEhDOU
BLEbDYNAMIC ARROWHEAD SMALLdLARGEcFASTcSLOWcTENSEcRELAXEDcSIMULTANEOUScSIMULTANEOUS ALTERNATINGcEVER
Y OTHER TIMEcGRADUALbHEADbHEAD RIMcMOVEMENT-WALLPLANE STRAIGHTeTILTdFLOORPLANE STRAIGHTdWALLPLANE CU
RVEdFLOORPLANE CURVEcMOVEMENT CIRCLEbFACE DIRECTION POSITION NOSE FORWARD TILTINGfUP OR DOWNhDOWN TI
LTINGbEYEBROWS STRAIGHT UPdNEUTRALdDOWNbDREAMY EYEBROWS NEUTRAL DOWNdDOWN NEUTRALdUP NEUTRALdNEUTRA
L UPbFOREHEAD NEUTRALcCONTACTcWRINKLEDbEYES OPENcSQUEEZEDcCLOSEDbEYE BLINK SINGLEdMULTIPLEbEYES HAL
F OPENcWIDE OPENcHALF CLOSEDcWIDENING MOVEMENTbEYE WINKbEYELASHES UPcDOWNcFLUTTERINGbEYEGAZE-WALLPLA
NE STRAIGHTdSTRAIGHT DOUBLEeALTERNATINGcFLOORPLANE STRAIGHTdSTRAIGHT DOUBLEeALTERNATINGcWALLPLANE CU
RVEDcFLOORPLANE CURVEDcWALLPLANE CIRCLINGbCHEEKS PUFFEDcNEUTRALcSUCKEDbTENSE CHEEKS HIGHdMIDDLEdLOWb
EARSbNOSE NEUTRALcCONTACTcWRINKLEScWIGGLESbAIR BLOWING OUTcSUCKING INcBLOW SMALL ROTATIONScSUCK SMAL
L ROTATIONSbBREATH INHALEcEXHALEbMOUTH CLOSED NEUTRALdFORWARDdCONTACTcSMILEcSMILE WRINKLEDdOPENcFROW
NcFROWN WRINKLEDdOPENcOPEN CIRCLEdFORWARDdWRINKLEDdOVALdOVAL WRINKLEDeYAWNdRECTANGLEdRECTANGLE WRINK
LEDeYAWNcKISScKISS FORWARDdWRINKLEDcTENSEcTENSE FORWARDdSUCKEDbLIPS PRESSED TOGETHERbLIP LOWER OVE
R UPPERcUPPER OVER LOWERbMOUTH CORNERScWRINKLES SINGLEdDOUBLEbTONGUE STICKING OUT FARcLICKING LIPScT
IP BETWEEN LIPSdTOUCHING INSIDE MOUTHcINSIDE MOUTH RELAXEDcMOVES AGAINST CHEEKcCENTRE STICKING OUTdI
NSIDE MOUTHbTEETHbTEETH MOVEMENTcON TONGUEdTONGUE MOVEMENTdLIPSdLIPS MOVEMENTcBITE LIPSbMOVEMENT-WAL
LPLANE JAWcFLOORPLANE JAWbNECKbHAIRbEXCITEMENTbSHOULDER HIP SPINEdPOSITIONSbWALLPLANE SHOULDER HIP M
OVEbFLOORPLANE SHOULDER HIP MOVEbSHOULDER TILTING FROM WAISTbTORSO-WALLPLANE STRAIGHT STRETCHdCURVE
D BENDcFLOORPLANE TWISTINGbUPPER BODY TILTING FROM HIP JOINTSbLIMB COMBINATIONcLENGTH-1d2d3d4d5d6d7b
FINGERbLOCATION-WALLPLANE SPACEcFLOORPLANE SPACEbLOCATION HEIGHTcWIDTHcDEPTHcHEAD NECKcTORSOcLIMBS D
IGITSbCOMMAbFULL STOPbSEMICOLONbCOLONbPARENTHESIS=1DA9BaSIGNWRITING FILL MODIFIER-2d3d4d5d6=1DAA1aSI
GNWRITING ROTATION MODIFIER-2d3d4d5d6d7d8d9d10d11d12d13d14d15d16=1DF00aLATIN SMALL LETTER FENG DIGRA
PH WITH TRILLdREVERSED SCRIPT GbLETTER SMALL CAPITAL TURNED GbSMALL LETTER REVERSED KbLETTER SMALL C
APITAL L WITH BELTbSMALL LETTER LEZH WITH RETROFLEX HOOKdTURNED Y WITH BELTdREVERSED ENGdTURNED R WI
TH LONG LEG AND RETROFLEX HOOKdT WITH HOOK AND RETROFLEX HOOKbLETTER RETROFLEX CLICK WITH RETROFLE
X HOOKbSMALL LETTER ESH WITH DOUBLE BARgBAR AND CURLdTURNED T WITH CURLbLETTER INVERTED GLOTTAL STO
P WITH CURLcSTRETCHED C WITH CURLcSMALL CAPITAL TURNED KbSMALL LETTER L WITH FISHHOOKdDEZH DIGRAPH W
ITH PALATAL HOOKdL WITH BELT AND PALATAL HOOKdENG WITH PALATAL HOOKdTURNED R WITH PALATAL HOOKdR WIT
H FISHHOOK AND PALATAL HOOKdTESH DIGRAPH WITH PALATAL HOOKdEZH WITH PALATAL HOOKdDEZH DIGRAPH WITH R
ETROFLEX HOOKdI WITH STROKE AND RETROFLEX HOOKdO WITH RETROFLEX HOOKdTESH DIGRAPH WITH RETROFLEX HOO
KdC WITH RETROFLEX HOOKdS WITH CURL=1E000aCOMBINING GLAGOLITIC LETTER AZUdBUKYdVEDEdGLAGOLIdDOBROdYE
STUdZHIVETE=1E008aCOMBINING GLAGOLITIC LETTER ZEMLJAdIZHEdINITIAL IZHEdIdDJERVIdKAKOdLJUDIJEdMYSLITE
dNASHIdONUdPOKOJIdRITSIdSLOVOdTVRIDOdUKUdFRITUdHERU=1E01BaCOMBINING GLAGOLITIC LETTER SHTAdTSIdCHRIV
IdSHAdYERUdYERIdYATI=1E023aCOMBINING GLAGOLITIC LETTER YUdSMALL YUS=1E026aCOMBINING GLAGOLITIC LETTE
R YOdIOTATED SMALL YUSdBIG YUSdIOTATED BIG YUSdFITA=1E100aNYIAKENG PUACHUE HMONG LETTER MAeTSAeNTAeT
AeHAeNAeXAeNKAeCAeLAeSAeZAeNCAeNTSAeKAeDAeNYAeNRAeVAeNTXAeTXAeFAeRAeQAeYAeNQAePAeXYAeNPAeDLAeNPLAeHA
HeMLAePLAeGAeRRAeAeAAeIeUeOeOOeEeEEeW=1E130aNYIAKENG PUACHUE HMONG TONE-BeMeJeVeSeGeDdSIGN FOR PERSO
NfTHINGfLOCATIONfANIMALfINVERTEBRATEeXW XWdSYLLABLE LENGTHENER=1E140aNYIAKENG PUACHUE HMONG DIGIT ZE
ROeONEeTWOeTHREEeFOUReFIVEeSIXeSEVENeEIGHTeNINE=1E14EaNYIAKENG PUACHUE HMONG LOGOGRAM NYAJdCIRCLED C
A=1E290aTOTO LETTER PAcBAcTAcDAcKAcGAcMAcNAcNGAcSAcCHAcYAcWAcJAcHAcRAcLAcIcBREATHY IcIUcBREATHY IUcU
cEcBREATHY EcEOcBREATHY EOcOcAEcBREATHY AEcAbSIGN RISING TONE=1E2C0aWANCHO LETTER AAcAcBAcCAcDAcGAcY
AcPHAcLAcNAcPAcTAcTHAcFAcSAcSHAcJAcZAcWAcVAcKAcOcAUcRAcMAcKHAcHAcEcIcNGAcUcLLHAcTSAcTRAcONGcAANGcANG
cINGcONcENcAANcNYAcUENcYIHbTONE TUPcTUPNIcKOIcKOINIbDIGIT ZEROcONEcTWOcTHREEcFOURcFIVEcSIXcSEVENcEIG
HTcNINE=1E2FFaWANCHO NGUN SIGN=1E7E0aETHIOPIC SYLLABLE HHYAcHHYUcHHYIcHHYAAcHHYEEcHHYEcHHYO=1E7E8aET
HIOPIC SYLLABLE GURAGE HHWAcHHWIcHHWEEcHHWE=1E7EDaETHIOPIC SYLLABLE GURAGE MWIdMWEE=1E7F0aETHIOPIC S
YLLABLE GURAGE QWIdQWEEdQWEdBWIdBWEEdKWIdKWEEdKWEdGWIdGWEEdGWEdFWIdFWEEdPWIdPWEE=1E800aMENDE KIKAKU
I SYLLABLE M001 KIdM002 KAdM003 KUdM065 KEEdM095 KEdM076 KOOdM048 KOdM179 KUAdM004 WIdM005 WAdM006 W
UdM126 WEEdM118 WEdM114 WOOdM045 WOdM194 WUIdM143 WEIdM061 WVIdM049 WVAdM139 WVEdM007 MINdM008 MANdM
009 MUNdM059 MENdM094 MONdM154 MUANdM189 MUENdM010 BIdM011 BAdM012 BUdM150 BEEdM097 BEdM103 BOOdM13
8 BOdM013 IdM014 AdM015 UdM163 EEdM100 EdM165 OOdM147 OdM137 EIdM131 INdM135 INdM195 ANdM178 ENdM01
9 SIdM020 SAdM021 SUdM162 SEEdM116 SEdM136 SOOdM079 SOdM196 SIAdM025 LIdM026 LAdM027 LUdM084 LEEdM07
3 LEdM054 LOOdM153 LOdM110 LONG LEdM016 DIdM017 DAdM018 DUdM089 DEEdM180 DOOdM181 DOdM022 TIdM023 TA
dM024 TUdM091 TEEdM055 TEdM104 TOOdM069 TOdM028 JIdM029 JAdM030 JUdM157 JEEdM113 JEdM160 JOOdM063 JO
dM175 LONG JOdM031 YIdM032 YAdM033 YUdM109 YEEdM080 YEdM141 YOOdM121 YOdM034 FIdM035 FAdM036 FUdM07
8 FEEdM075 FEdM133 FOOdM088 FOdM197 FUAdM101 FANdM037 NINdM038 NANdM039 NUNdM117 NENdM169 NONdM176 H
IdM041 HAdM186 HUdM040 HEEdM096 HEdM042 HOOdM140 HOdM083 HEEIdM128 HOOUdM053 HINdM130 HANdM087 HUNdM
052 HENdM193 HONdM046 HUANdM090 NGGIdM043 NGGAdM082 NGGUdM115 NGGEEdM146 NGGEdM156 NGGOOdM120 NGGOdM
159 NGGAAdM127 NGGUAdM086 LONG NGGEdM106 LONG NGGOOdM183 LONG NGGOdM155 GIdM111 GAdM168 GUdM190 GEEd
M166 GUEIdM167 GUANdM184 NGENdM057 NGONdM177 NGUANdM068 PIdM099 PAdM050 PUdM081 PEEdM051 PEdM102 POO
dM066 POdM145 MBIdM062 MBAdM122 MBUdM047 MBEEdM188 MBEEdM072 MBEdM172 MBOOdM174 MBOdM187 MBUUdM161 L
ONG MBEdM105 LONG MBOOdM142 LONG MBOdM132 KPIdM092 KPAdM074 KPUdM044 KPEEdM108 KPEdM112 KPOOdM158 KP
OdM124 GBIdM056 GBAdM148 GBUdM093 GBEEdM107 GBEdM071 GBOOdM070 GBOdM171 RAdM123 NDIdM129 NDAdM125 ND
UdM191 NDEEdM119 NDEdM067 NDOOdM064 NDOdM152 NJAdM192 NJUdM149 NJEEdM134 NJOOdM182 VIdM185 VAdM151 V
UdM173 VEEdM085 VEdM144 VOOdM077 VOdM164 NYINdM058 NYANdM170 NYUNdM098 NYENdM060 NYON=1E8C7aMENDE KI
KAKUI DIGIT ONEdTWOdTHREEdFOURdFIVEdSIXdSEVENdEIGHTdNINEcCOMBINING NUMBER TEENSeTENSeHUNDREDSeTHOUSA
NDSeTEN THOUSANDSeHUNDRED THOUSANDSeMILLIONS=1E900aADLAM CAPITAL LETTER ALIFdDAALIdLAAMdMIIMdBAdSINN
YIIYHEdPEdBHEdRAdEdFAdIdOdDHAdYHEdWAWdNUNdKAFdYAdUdJIIMdCHIdHAdQAAFdGAdNYAdTUdNHAdVAdKHAdGBEdZALdKPO
dSHAbSMALL LETTER ALIFdDAALIdLAAMdMIIMdBAdSINNYIIYHEdPEdBHEdRAdEdFAdIdOdDHAdYHEdWAWdNUNdKAFdYAdUdJII
MdCHIdHAdQAAFdGAdNYAdTUdNHAdVAdKHAdGBEdZALdKPOdSHAbALIF LENGTHENERbVOWEL LENGTHENERbGEMINATION MARKb
HAMZAbCONSONANT MODIFIERbGEMINATE CONSONANT MODIFIERbNUKTAbNASALIZATION MARK=1E950aADLAM DIGIT ZEROc
ONEcTWOcTHREEcFOURcFIVEcSIXcSEVENcEIGHTcNINE=1E95EaADLAM INITIAL EXCLAMATION MARKcQUESTION MARK=1EC7
1aINDIC SIYAQ NUMBER ONEdTWOdTHREEdFOURdFIVEdSIXdSEVENdEIGHTdNINEdTENdTWENTYdTHIRTYdFORTYdFIFTYdSIXT
YdSEVENTYdEIGHTYdNINETYdONE HUNDREDdTWO HUNDREDdTHREE HUNDREDdFOUR HUNDREDdFIVE HUNDREDdSIX HUNDREDd
SEVEN HUNDREDdEIGHT HUNDREDdNINE HUNDREDdONE THOUSANDdTWO THOUSANDdTHREE THOUSANDdFOUR THOUSANDdFIV
E THOUSANDdSIX THOUSANDdSEVEN THOUSANDdEIGHT THOUSANDdNINE THOUSANDdTEN THOUSANDdTWENTY THOUSANDdTHI
RTY THOUSANDdFORTY THOUSANDdFIFTY THOUSANDdSIXTY THOUSANDdSEVENTY THOUSANDdEIGHTY THOUSANDdNINETY TH
OUSANDdLAKHdLAKHANcLAKH MARKcNUMBER KARORdKARORANdPREFIXED ONEeTWOeTHREEeFOUReFIVEeSIXeSEVENeEIGHTeN
INEcPLACEHOLDERcFRACTION ONE QUARTEReHALFdTHREE QUARTERScRUPEE MARKcNUMBER ALTERNATE ONEeTWOeTEN THO
USANDcALTERNATE LAKH MARK=1ED01aOTTOMAN SIYAQ NUMBER ONEdTWOdTHREEdFOURdFIVEdSIXdSEVENdEIGHTdNINEdTE
NdTWENTYdTHIRTYdFORTYdFIFTYdSIXTYdSEVENTYdEIGHTYdNINETYdONE HUNDREDdTWO HUNDREDdTHREE HUNDREDdFOUR H
UNDREDdFIVE HUNDREDdSIX HUNDREDdSEVEN HUNDREDdEIGHT HUNDREDdNINE HUNDREDdONE THOUSANDdTWO THOUSANDdT
HREE THOUSANDdFOUR THOUSANDdFIVE THOUSANDdSIX THOUSANDdSEVEN THOUSANDdEIGHT THOUSANDdNINE THOUSANDdT
EN THOUSANDdTWENTY THOUSANDdTHIRTY THOUSANDdFORTY THOUSANDdFIFTY THOUSANDdSIXTY THOUSANDdSEVENTY THO
USANDdEIGHTY THOUSANDdNINETY THOUSANDcMARRATANcALTERNATE NUMBER TWOeTHREEeFOUReFIVEeSIXeSEVENeEIGHTe
NINEeTENeFOUR HUNDREDeSIX HUNDREDeTWO THOUSANDeTEN THOUSANDcFRACTION ONE HALFeSIXTH=1EE00aARABIC MAT
HEMATICAL ALEFcBEHcJEEMcDAL=1EE05aARABIC MATHEMATICAL WAWcZAINcHAHcTAHcYEHcKAFcLAMcMEEMcNOONcSEENcAI
NcFEHcSADcQAFcREHcSHEENcTEHcTHEHcKHAHcTHALcDADcZAHcGHAINcDOTLESS BEHdNOONdFEHdQAF=1EE21aARABIC MATHE
MATICAL INITIAL BEHdJEEM=1EE24aARABIC MATHEMATICAL INITIAL HEH=1EE27aARABIC MATHEMATICAL INITIAL HAH
=1EE29aARABIC MATHEMATICAL INITIAL YEHdKAFdLAMdMEEMdNOONdSEENdAINdFEHdSADdQAF=1EE34aARABIC MATHEMATI
CAL INITIAL SHEENdTEHdTHEHdKHAH=1EE39aARABIC MATHEMATICAL INITIAL DAD=1EE3BaARABIC MATHEMATICAL INIT
IAL GHAIN=1EE42aARABIC MATHEMATICAL TAILED JEEM=1EE47aARABIC MATHEMATICAL TAILED HAH=1EE49aARABIC MA
THEMATICAL TAILED YEH=1EE4BaARABIC MATHEMATICAL TAILED LAM=1EE4DaARABIC MATHEMATICAL TAILED NOONdSEE
NdAIN=1EE51aARABIC MATHEMATICAL TAILED SADdQAF=1EE54aARABIC MATHEMATICAL TAILED SHEEN=1EE57aARABIC M
ATHEMATICAL TAILED KHAH=1EE59aARABIC MATHEMATICAL TAILED DAD=1EE5BaARABIC MATHEMATICAL TAILED GHAIN=
1EE5DaARABIC MATHEMATICAL TAILED DOTLESS NOON=1EE5FaARABIC MATHEMATICAL TAILED DOTLESS QAF=1EE61aARA
BIC MATHEMATICAL STRETCHED BEHdJEEM=1EE64aARABIC MATHEMATICAL STRETCHED HEH=1EE67aARABIC MATHEMATICA
L STRETCHED HAHdTAHdYEHdKAF=1EE6CaARABIC MATHEMATICAL STRETCHED MEEMdNOONdSEENdAINdFEHdSADdQAF=1EE74
aARABIC MATHEMATICAL STRETCHED SHEENdTEHdTHEHdKHAH=1EE79aARABIC MATHEMATICAL STRETCHED DADdZAHdGHAIN
dDOTLESS BEH=1EE7EaARABIC MATHEMATICAL STRETCHED DOTLESS FEH=1EE80aARABIC MATHEMATICAL LOOPED ALEFdB
EHdJEEMdDALdHEHdWAWdZAINdHAHdTAHdYEH=1EE8BaARABIC MATHEMATICAL LOOPED LAMdMEEMdNOONdSEENdAINdFEHdSAD
dQAFdREHdSHEENdTEHdTHEHdKHAHdTHALdDADdZAHdGHAIN=1EEA1aARABIC MATHEMATICAL DOUBLE-STRUCK BEHeJEEMeDAL
=1EEA5aARABIC MATHEMATICAL DOUBLE-STRUCK WAWeZAINeHAHeTAHeYEH=1EEABaARABIC MATHEMATICAL DOUBLE-STRUC
K LAMeMEEMeNOONeSEENeAINeFEHeSADeQAFeREHeSHEENeTEHeTHEHeKHAHeTHALeDADeZAHeGHAIN=1EEF0aARABIC MATHEMA
TICAL OPERATOR MEEM WITH HAH WITH TATWEELdHAH WITH DAL=1F000aMAHJONG TILE EAST WINDcSOUTH WINDcWES
T WINDcNORTH WINDcRED DRAGONcGREEN DRAGONcWHITE DRAGONcONE OF CHARACTERScTWO OF CHARACTERScTHREE O
F CHARACTERScFOUR OF CHARACTERScFIVE OF CHARACTERScSIX OF CHARACTERScSEVEN OF CHARACTERScEIGHT OF CH
ARACTERScNINE OF CHARACTERScONE OF BAMBOOScTWO OF BAMBOOScTHREE OF BAMBOOScFOUR OF BAMBOOScFIVE OF B
AMBOOScSIX OF BAMBOOScSEVEN OF BAMBOOScEIGHT OF BAMBOOScNINE OF BAMBOOScONE OF CIRCLEScTWO OF CIRCLE
ScTHREE OF CIRCLEScFOUR OF CIRCLEScFIVE OF CIRCLEScSIX OF CIRCLEScSEVEN OF CIRCLEScEIGHT OF CIRCLESc
NINE OF CIRCLEScPLUMcORCHIDcBAMBOOcCHRYSANTHEMUMcSPRINGcSUMMERcAUTUMNcWINTERcJOKERcBACK=1F030aDOMIN
O TILE HORIZONTAL BACKcHORIZONTAL-00-00e01e02e03e04e05e06d01-00e01e02e03e04e05e06d02-00e01e02e03e04e
05e06d03-00e01e02e03e04e05e06d04-00e01e02e03e04e05e06d05-00e01e02e03e04e05e06d06-00e01e02e03e04e05e0
6cVERTICAL BACKcVERTICAL-00-00e01e02e03e04e05e06d01-00e01e02e03e04e05e06d02-00e01e02e03e04e05e06d03-
00e01e02e03e04e05e06d04-00e01e02e03e04e05e06d05-00e01e02e03e04e05e06d06-00e01e02e03e04e05e06=1F0A0aP
LAYING CARD BACKcACE OF SPADEScTWO OF SPADEScTHREE OF SPADEScFOUR OF SPADEScFIVE OF SPADEScSIX OF SP
ADEScSEVEN OF SPADEScEIGHT OF SPADEScNINE OF SPADEScTEN OF SPADEScJACK OF SPADEScKNIGHT OF SPADEScQU
EEN OF SPADEScKING OF SPADES=1F0B1aPLAYING CARD ACE OF HEARTScTWO OF HEARTScTHREE OF HEARTScFOUR O
F HEARTScFIVE OF HEARTScSIX OF HEARTScSEVEN OF HEARTScEIGHT OF HEARTScNINE OF HEARTScTEN OF HEARTScJ
ACK OF HEARTScKNIGHT OF HEARTScQUEEN OF HEARTScKING OF HEARTScRED JOKER=1F0C1aPLAYING CARD ACE OF DI
AMONDScTWO OF DIAMONDScTHREE OF DIAMONDScFOUR OF DIAMONDScFIVE OF DIAMONDScSIX OF DIAMONDScSEVEN O
F DIAMONDScEIGHT OF DIAMONDScNINE OF DIAMONDScTEN OF DIAMONDScJACK OF DIAMONDScKNIGHT OF DIAMONDScQU
EEN OF DIAMONDScKING OF DIAMONDScBLACK JOKER=1F0D1aPLAYING CARD ACE OF CLUBScTWO OF CLUBScTHREE OF C
LUBScFOUR OF CLUBScFIVE OF CLUBScSIX OF CLUBScSEVEN OF CLUBScEIGHT OF CLUBScNINE OF CLUBScTEN OF CLU
BScJACK OF CLUBScKNIGHT OF CLUBScQUEEN OF CLUBScKING OF CLUBScWHITE JOKERcFOOLcTRUMP-1d2d3d4d5d6d7d8
d9d10d11d12d13d14d15d16d17d18d19d20d21=1F100aDIGIT ZERO FULL STOPcCOMMAbONE COMMAbTWO COMMAbTHREE CO
MMAbFOUR COMMAbFIVE COMMAbSIX COMMAbSEVEN COMMAbEIGHT COMMAbNINE COMMAaDINGBAT CIRCLED SANS-SERIF DI
GIT ZERObNEGATIVE CIRCLED SANS-SERIF DIGIT ZEROaCIRCLED ZERO WITH SLASHbANTICLOCKWISE ARROWbDOLLAR S
IGN WITH OVERLAID BACKSLASHaPARENTHESIZED LATIN CAPITAL LETTER AeBeCeDeEeFeGeHeIeJeKeLeMeNeOePeQeReS
eTeUeVeWeXeYeZaTORTOISE SHELL BRACKETED LATIN CAPITAL LETTER SaCIRCLED ITALIC LATIN CAPITAL LETTER C
fRbCDbWZaCOPYLEFT SYMBOLaSQUARED LATIN CAPITAL LETTER AeBeCeDeEeFeGeHeIeJeKeLeMeNeOePeQeReSeTeUeVeWe
XeYeZbHVbMVbSDbSSbPPVbWCaNEGATIVE CIRCLED LATIN CAPITAL LETTER AfBfCfDfEfFfGfHfIfJfKfLfMfNfOfPfQfRfS
fTfUfVfWfXfYfZaRAISED MC SIGNbMD SIGNbMR SIGNaCIRCLED CCbC WITH OVERLAID BACKSLASHbHUMAN FIGUREaNEGA
TIVE SQUARED LATIN CAPITAL LETTER AfBfCfDfEfFfGfHfIfJfKfLfMfNfOfPfQfRfSfTfUfVfWfXfYfZaCROSSED NEGATI
VE SQUARED LATIN CAPITAL LETTER PaNEGATIVE SQUARED ICcPAcSAcABcWCaSQUARE DJaSQUARED CLbCOOLbFREEbIDb
NEWbNGbOKbSOSbUP WITH EXCLAMATION MARKbVSbTHREE DbSECOND SCREENbTWO KbFOUR KbEIGHT KbFIVE POINT ONEb
SEVEN POINT ONEbTWENTY-TWO POINT TWObSIXTY PbONE HUNDRED TWENTY PbLATIN SMALL LETTER DbHCbHDRbHI-RES
bLOSSLESSbSHVbUHDbVODaMASK WORK SYMBOL=1F1E6aREGIONAL INDICATOR SYMBOL LETTER AeBeCeDeEeFeGeHeIeJeKe
LeMeNeOePeQeReSeTeUeVeWeXeYeZaSQUARE HIRAGANA HOKAaSQUARED KATAKANA KOKOcSA=1F210aSQUARED CJK UNIFIE
D IDEOGRAPH-624Be5B57e53CCbKATAKANA DEbCJK UNIFIED IDEOGRAPH-4E8Ce591Ae89E3e5929e4EA4e6620e7121e6599
e524De5F8Ce518De65B0e521De7D42e751Fe8CA9e58F0e5439e6F14e6295e6355e4E00e4E09e904Ae5DE6e4E2De53F3e6307
e8D70e6253e7981e7A7Ae5408e6E80e6709e6708e7533e5272e55B6e914D=1F240aTORTOISE SHELL BRACKETED CJK UNIF
IED IDEOGRAPH-672Cg4E09g4E8Cg5B89g70B9g6253g76D7g52DDg6557=1F250aCIRCLED IDEOGRAPH ADVANTAGEcACCEPT=
1F260aROUNDED SYMBOL FOR FUdLUdSHOUdXIdSHUANGXIdCAI=1F300aCYCLONEaFOGGYaCLOSED UMBRELLAaNIGHT WITH S
TARSaSUNRISE OVER MOUNTAINSaSUNRISEaCITYSCAPE AT DUSKaSUNSET OVER BUILDINGSaRAINBOWaBRIDGE AT NIGHTa
WATER WAVEaVOLCANOaMILKY WAYaEARTH GLOBE EUROPE-AFRICAcAMERICAScASIA-AUSTRALIAaGLOBE WITH MERIDIANSa
NEW MOON SYMBOLaWAXING CRESCENT MOON SYMBOLaFIRST QUARTER MOON SYMBOLaWAXING GIBBOUS MOON SYMBOLaFUL
L MOON SYMBOLaWANING GIBBOUS MOON SYMBOLaLAST QUARTER MOON SYMBOLaWANING CRESCENT MOON SYMBOLaCRESCE
NT MOONaNEW MOON WITH FACEaFIRST QUARTER MOON WITH FACEaLAST QUARTER MOON WITH FACEaFULL MOON WITH F
ACEaSUN WITH FACEaGLOWING STARaSHOOTING STARaTHERMOMETERaBLACK DROPLETaWHITE SUNbSUN WITH SMALL CLOU
DcBEHIND CLOUDdCLOUD WITH RAINaCLOUD WITH RAINcSNOWcLIGHTNINGcTORNADOaFOGaWIND BLOWING FACEaHOT DOGa
TACOaBURRITOaCHESTNUTaSEEDLINGaEVERGREEN TREEaDECIDUOUS TREEaPALM TREEaCACTUSaHOT PEPPERaTULIPaCHERR
Y BLOSSOMaROSEaHIBISCUSaSUNFLOWERaBLOSSOMaEAR OF MAIZEcRICEaHERBaFOUR LEAF CLOVERaMAPLE LEAFaFALLE
N LEAFaLEAF FLUTTERING IN WINDaMUSHROOMaTOMATOaAUBERGINEaGRAPESaMELONaWATERMELONaTANGERINEaLEMONaBAN
ANAaPINEAPPLEaRED APPLEaGREEN APPLEaPEARaPEACHaCHERRIESaSTRAWBERRYaHAMBURGERaSLICE OF PIZZAaMEAT O
N BONEaPOULTRY LEGaRICE CRACKERbBALLaCOOKED RICEaCURRY AND RICEaSTEAMING BOWLaSPAGHETTIaBREADaFRENC
H FRIESaROASTED SWEET POTATOaDANGOaODENaSUSHIaFRIED SHRIMPaFISH CAKE WITH SWIRL DESIGNaSOFT ICE CREA
MaSHAVED ICEaICE CREAMaDOUGHNUTaCOOKIEaCHOCOLATE BARaCANDYaLOLLIPOPaCUSTARDaHONEY POTaSHORTCAKEaBENT
O BOXaPOT OF FOODaCOOKINGaFORK AND KNIFEaTEACUP WITHOUT HANDLEaSAKE BOTTLE AND CUPaWINE GLASSaCOCKTA
IL GLASSaTROPICAL DRINKaBEER MUGaCLINKING BEER MUGSaBABY BOTTLEaFORK AND KNIFE WITH PLATEaBOTTLE WIT
H POPPING CORKaPOPCORNaRIBBONaWRAPPED PRESENTaBIRTHDAY CAKEaJACK-O-LANTERNaCHRISTMAS TREEaFATHER CHR
ISTMASaFIREWORKSaFIREWORK SPARKLERaBALLOONaPARTY POPPERaCONFETTI BALLaTANABATA TREEaCROSSED FLAGSaPI
NE DECORATIONaJAPANESE DOLLSaCARP STREAMERaWIND CHIMEaMOON VIEWING CEREMONYaSCHOOL SATCHELaGRADUATIO
N CAPaHEART WITH TIP ON THE LEFTaBOUQUET OF FLOWERSaMILITARY MEDALaREMINDER RIBBONaMUSICAL KEYBOAR
D WITH JACKSaSTUDIO MICROPHONEaLEVEL SLIDERaCONTROL KNOBSaBEAMED ASCENDING MUSICAL NOTESbDESCENDIN
G MUSICAL NOTESaFILM FRAMESaADMISSION TICKETSaCAROUSEL HORSEaFERRIS WHEELaROLLER COASTERaFISHING POL
E AND FISHaMICROPHONEaMOVIE CAMERAaCINEMAaHEADPHONEaARTIST PALETTEaTOP HATaCIRCUS TENTaTICKETaCLAPPE
R BOARDaPERFORMING ARTSaVIDEO GAMEaDIRECT HITaSLOT MACHINEaBILLIARDSaGAME DIEaBOWLINGaFLOWER PLAYIN
G CARDSaMUSICAL NOTEaMULTIPLE MUSICAL NOTESaSAXOPHONEaGUITARaMUSICAL KEYBOARDaTRUMPETaVIOLINaMUSICA
L SCOREaRUNNING SHIRT WITH SASHaTENNIS RACQUET AND BALLaSKI AND SKI BOOTaBASKETBALL AND HOOPaCHEQUER
ED FLAGaSNOWBOARDERaRUNNERaSURFERaSPORTS MEDALaTROPHYaHORSE RACINGaAMERICAN FOOTBALLaRUGBY FOOTBALLa
SWIMMERaWEIGHT LIFTERaGOLFERaRACING MOTORCYCLEbCARaCRICKET BAT AND BALLaVOLLEYBALLaFIELD HOCKEY STIC
K AND BALLaICE HOCKEY STICK AND PUCKaTABLE TENNIS PADDLE AND BALLaSNOW CAPPED MOUNTAINaCAMPINGaBEAC
H WITH UMBRELLAaBUILDING CONSTRUCTIONaHOUSE BUILDINGSaCITYSCAPEaDERELICT HOUSE BUILDINGaCLASSICAL BU
ILDINGaDESERTaDESERT ISLANDaNATIONAL PARKaSTADIUMaHOUSE BUILDINGbWITH GARDENaOFFICE BUILDINGaJAPANES
E POST OFFICEaEUROPEAN POST OFFICEaHOSPITALaBANKaAUTOMATED TELLER MACHINEaHOTELaLOVE HOTELaCONVENIEN
CE STOREaSCHOOLaDEPARTMENT STOREaFACTORYaIZAKAYA LANTERNaJAPANESE CASTLEaEUROPEAN CASTLEaWHITE PENNA
NTaBLACK PENNANTaWAVING WHITE FLAGbBLACK FLAGaROSETTEaBLACK ROSETTEaLABELaBADMINTON RACQUET AND SHUT
TLECOCKaBOW AND ARROWaAMPHORAaEMOJI MODIFIER FITZPATRICK TYPE-1-2e3e4e5e6aRATaMOUSEaOXaWATER BUFFALO
aCOWaTIGERaLEOPARDaRABBITaCATaDRAGONaCROCODILEaWHALEaSNAILaSNAKEaHORSEaRAMaGOATaSHEEPaMONKEYaROOSTER
aCHICKENaDOGaPIGaBOARaELEPHANTaOCTOPUSaSPIRAL SHELLaBUGaANTaHONEYBEEaLADY BEETLEaFISHaTROPICAL FISHa
BLOWFISHaTURTLEaHATCHING CHICKaBABY CHICKaFRONT-FACING BABY CHICKaBIRDaPENGUINaKOALAaPOODLEaDROMEDAR
Y CAMELaBACTRIAN CAMELaDOLPHINaMOUSE FACEaCOW FACEaTIGER FACEaRABBIT FACEaCAT FACEaDRAGON FACEaSPOUT
ING WHALEaHORSE FACEaMONKEY FACEaDOG FACEaPIG FACEaFROG FACEaHAMSTER FACEaWOLF FACEaBEAR FACEaPAND
A FACEaPIG NOSEaPAW PRINTSaCHIPMUNKaEYESaEYEaEARaNOSEaMOUTHaTONGUEaWHITE UP POINTING BACKHAND INDEXb
DOWN POINTING BACKHAND INDEXbLEFT POINTING BACKHAND INDEXbRIGHT POINTING BACKHAND INDEXaFISTED HAN
D SIGNaWAVING HAND SIGNaOK HAND SIGNaTHUMBS UP SIGNbDOWN SIGNaCLAPPING HANDS SIGNaOPEN HANDS SIGNaCR
OWNaWOMANS HATaEYEGLASSESaNECKTIEaT-SHIRTaJEANSaDRESSaKIMONOaBIKINIaWOMANS CLOTHESaPURSEaHANDBAGaPOU
CHaMANS SHOEaATHLETIC SHOEaHIGH-HEELED SHOEaWOMANS SANDALbBOOTSaFOOTPRINTSaBUST IN SILHOUETTEaBUST
S IN SILHOUETTEaBOYaGIRLaMANaWOMANaFAMILYaMAN AND WOMAN HOLDING HANDSaTWO MEN HOLDING HANDSbWOMEN HO
LDING HANDSaPOLICE OFFICERaWOMAN WITH BUNNY EARSaBRIDE WITH VEILaPERSON WITH BLOND HAIRaMAN WITH GU
A PI MAOcTURBANaOLDER MANbWOMANaBABYaCONSTRUCTION WORKERaPRINCESSaJAPANESE OGREbGOBLINaGHOSTaBABY AN
GELaEXTRATERRESTRIAL ALIENaALIEN MONSTERaIMPaSKULLaINFORMATION DESK PERSONaGUARDSMANaDANCERaLIPSTICK
aNAIL POLISHaFACE MASSAGEaHAIRCUTaBARBER POLEaSYRINGEaPILLaKISS MARKaLOVE LETTERaRINGaGEM STONEaKISS
aBOUQUETaCOUPLE WITH HEARTaWEDDINGaBEATING HEARTaBROKEN HEARTaTWO HEARTSaSPARKLING HEARTaGROWING HEA
RTaHEART WITH ARROWaBLUE HEARTaGREEN HEARTaYELLOW HEARTaPURPLE HEARTaHEART WITH RIBBONaREVOLVING HEA
RTSaHEART DECORATIONaDIAMOND SHAPE WITH A DOT INSIDEaELECTRIC LIGHT BULBaANGER SYMBOLaBOMBaSLEEPIN
G SYMBOLaCOLLISION SYMBOLaSPLASHING SWEAT SYMBOLaDROPLETaDASH SYMBOLaPILE OF POOaFLEXED BICEPSaDIZZ
Y SYMBOLaSPEECH BALLOONaTHOUGHT BALLOONaWHITE FLOWERaHUNDRED POINTS SYMBOLaMONEY BAGaCURRENCY EXCHAN
GEaHEAVY DOLLAR SIGNaCREDIT CARDaBANKNOTE WITH YEN SIGNcDOLLAR SIGNcEURO SIGNcPOUND SIGNaMONEY WIT
H WINGSaCHART WITH UPWARDS TREND AND YEN SIGNaSEATaPERSONAL COMPUTERaBRIEFCASEaMINIDISCaFLOPPY DISKa
OPTICAL DISCaDVDaFILE FOLDERaOPEN FILE FOLDERaPAGE WITH CURLbFACING UPaCALENDARaTEAR-OFF CALENDARaCA
RD INDEXaCHART WITH UPWARDS TRENDcDOWNWARDS TRENDaBAR CHARTaCLIPBOARDaPUSHPINaROUND PUSHPINaPAPERCLI
PaSTRAIGHT RULERaTRIANGULAR RULERaBOOKMARK TABSaLEDGERaNOTEBOOKaNOTEBOOK WITH DECORATIVE COVERaCLOSE
D BOOKaOPEN BOOKaGREEN BOOKaBLUE BOOKaORANGE BOOKaBOOKSaNAME BADGEaSCROLLaMEMOaTELEPHONE RECEIVERaPA
GERaFAX MACHINEaSATELLITE ANTENNAaPUBLIC ADDRESS LOUDSPEAKERaCHEERING MEGAPHONEaOUTBOX TRAYaINBOX TR
AYaPACKAGEaE-MAIL SYMBOLaINCOMING ENVELOPEaENVELOPE WITH DOWNWARDS ARROW ABOVEaCLOSED MAILBOX WITH L
OWERED FLAGdRAISED FLAGaOPEN MAILBOX WITH RAISED FLAGdLOWERED FLAGaPOSTBOXaPOSTAL HORNaNEWSPAPERaMOB
ILE PHONEbPHONE WITH RIGHTWARDS ARROW AT LEFTaVIBRATION MODEaMOBILE PHONE OFFaNO MOBILE PHONESaANTEN
NA WITH BARSaCAMERAaCAMERA WITH FLASHaVIDEO CAMERAaTELEVISIONaRADIOaVIDEOCASSETTEaFILM PROJECTORaPOR
TABLE STEREOaPRAYER BEADSaTWISTED RIGHTWARDS ARROWSaCLOCKWISE RIGHTWARDS AND LEFTWARDS OPEN CIRCLE A
RROWSgARROWS WITH CIRCLED ONE OVERLAYbDOWNWARDS AND UPWARDS OPEN CIRCLE ARROWSaANTICLOCKWISE DOWNWAR
DS AND UPWARDS OPEN CIRCLE ARROWSaLOW BRIGHTNESS SYMBOLaHIGH BRIGHTNESS SYMBOLaSPEAKER WITH CANCELLA
TION STROKEaSPEAKERaSPEAKER WITH ONE SOUND WAVEcTHREE SOUND WAVESaBATTERYaELECTRIC PLUGaLEFT-POINTIN
G MAGNIFYING GLASSaRIGHT-POINTING MAGNIFYING GLASSaLOCK WITH INK PENaCLOSED LOCK WITH KEYaKEYaLOCKaO
PEN LOCKaBELLaBELL WITH CANCELLATION STROKEaBOOKMARKaLINK SYMBOLaRADIO BUTTONaBACK WITH LEFTWARDS AR
ROW ABOVEaEND WITH LEFTWARDS ARROW ABOVEaON WITH EXCLAMATION MARK WITH LEFT RIGHT ARROW ABOVEaSOON W
ITH RIGHTWARDS ARROW ABOVEaTOP WITH UPWARDS ARROW ABOVEaNO ONE UNDER EIGHTEEN SYMBOLaKEYCAP TENaINPU
T SYMBOL FOR LATIN CAPITAL LETTERSeSMALL LETTERSdNUMBERSdSYMBOLSdLATIN LETTERSaFIREaELECTRIC TORCHaW
RENCHaHAMMERaNUT AND BOLTaHOCHOaPISTOLaMICROSCOPEaTELESCOPEaCRYSTAL BALLaSIX POINTED STAR WITH MIDDL
E DOTaJAPANESE SYMBOL FOR BEGINNERaTRIDENT EMBLEMaBLACK SQUARE BUTTONaWHITE SQUARE BUTTONaLARGE RE
D CIRCLEbBLUE CIRCLEbORANGE DIAMONDbBLUE DIAMONDaSMALL ORANGE DIAMONDbBLUE DIAMONDaUP-POINTING RED T
RIANGLEaDOWN-POINTING RED TRIANGLEaUP-POINTING SMALL RED TRIANGLEaDOWN-POINTING SMALL RED TRIANGLEaL
OWER RIGHT SHADOWED WHITE CIRCLEaUPPER RIGHT SHADOWED WHITE CIRCLEaCIRCLED CROSS POMMEEaCROSS POMME
E WITH HALF-CIRCLE BELOWbPOMMEEaNOTCHED LEFT SEMICIRCLE WITH THREE DOTSbRIGHT SEMICIRCLE WITH THRE
E DOTSaSYMBOL FOR MARKS CHAPTERaWHITE LATIN CROSSaHEAVY LATIN CROSSaCELTIC CROSSaOM SYMBOLaDOVE OF P
EACEaKAABAaMOSQUEaSYNAGOGUEaMENORAH WITH NINE BRANCHESaBOWL OF HYGIEIAaCLOCK FACE ONE OCLOCKcTWO OCL
OCKcTHREE OCLOCKcFOUR OCLOCKcFIVE OCLOCKcSIX OCLOCKcSEVEN OCLOCKcEIGHT OCLOCKcNINE OCLOCKcTEN OCLOCK
cELEVEN OCLOCKcTWELVE OCLOCKcONE-THIRTYcTWO-THIRTYcTHREE-THIRTYcFOUR-THIRTYcFIVE-THIRTYcSIX-THIRTYcS
EVEN-THIRTYcEIGHT-THIRTYcNINE-THIRTYcTEN-THIRTYcELEVEN-THIRTYcTWELVE-THIRTYaRIGHT SPEAKERbSPEAKER WI
TH ONE SOUND WAVEdTHREE SOUND WAVESaBULLHORNaBULLHORN WITH SOUND WAVESaRINGING BELLaBOOKaCANDLEaMANT
ELPIECE CLOCKaBLACK SKULL AND CROSSBONESaNO PIRACYaHOLEaMAN IN BUSINESS SUIT LEVITATINGaSLEUTH OR SP
YaDARK SUNGLASSESaSPIDERaSPIDER WEBaJOYSTICKaMAN DANCINGaLEFT HAND TELEPHONE RECEIVERaTELEPHONE RECE
IVER WITH PAGEaRIGHT HAND TELEPHONE RECEIVERaWHITE TOUCHTONE TELEPHONEaBLACK TOUCHTONE TELEPHONEaTEL
EPHONE ON TOP OF MODEMaCLAMSHELL MOBILE PHONEaBACK OF ENVELOPEaSTAMPED ENVELOPEaENVELOPE WITH LIGHTN
INGaFLYING ENVELOPEaPEN OVER STAMPED ENVELOPEaLINKED PAPERCLIPSaBLACK PUSHPINaLOWER LEFT PENCILcBALL
POINT PENcFOUNTAIN PENcPAINTBRUSHcCRAYONaLEFT WRITING HANDaTURNED OK HAND SIGNaRAISED HAND WITH FING
ERS SPLAYEDaREVERSED RAISED HAND WITH FINGERS SPLAYEDbTHUMBS UP SIGNcDOWN SIGNbVICTORY HANDbHAND WIT
H MIDDLE FINGER EXTENDEDaRAISED HAND WITH PART BETWEEN MIDDLE AND RING FINGERSaWHITE DOWN POINTING L
EFT HAND INDEXaSIDEWAYS WHITE LEFT POINTING INDEXcRIGHT POINTING INDEXbBLACK LEFT POINTING INDEXcRIG
HT POINTING INDEXaBLACK LEFT POINTING BACKHAND INDEXbRIGHT POINTING BACKHAND INDEXaSIDEWAYS WHITE U
P POINTING INDEXcDOWN POINTING INDEXbBLACK UP POINTING INDEXcDOWN POINTING INDEXaBLACK UP POINTING B
ACKHAND INDEXbDOWN POINTING BACKHAND INDEXbHEARTaDESKTOP COMPUTERaKEYBOARD AND MOUSEaTHREE NETWORKE
D COMPUTERSaPRINTERaPOCKET CALCULATORaBLACK HARD SHELL FLOPPY DISKaWHITE HARD SHELL FLOPPY DISKaSOF
T SHELL FLOPPY DISKaTAPE CARTRIDGEaWIRED KEYBOARDaONE BUTTON MOUSEaTWO BUTTON MOUSEaTHREE BUTTON MOU
SEaTRACKBALLaOLD PERSONAL COMPUTERaHARD DISKaSCREENaPRINTER ICONaFAX ICONaOPTICAL DISC ICONaDOCUMEN
T WITH TEXTcTEXT AND PICTUREcPICTUREaFRAME WITH PICTUREcTILEScAN XaBLACK FOLDERaFOLDERaOPEN FOLDERaC
ARD INDEX DIVIDERSbFILE BOXaFILE CABINETaEMPTY NOTEbNOTE PAGEcPADaNOTEaNOTE PAGEbPADaEMPTY DOCUMENTb
PAGEbPAGESaDOCUMENTaPAGEaPAGESaWASTEBASKETaSPIRAL NOTE PADbCALENDAR PADaDESKTOP WINDOWaMINIMIZEaMAXI
MIZEaOVERLAPaCLOCKWISE RIGHT AND LEFT SEMICIRCLE ARROWSaCANCELLATION XaINCREASE FONT SIZE SYMBOLaDEC
REASE FONT SIZE SYMBOLaCOMPRESSIONaOLD KEYaROLLED-UP NEWSPAPERaPAGE WITH CIRCLED TEXTaSTOCK CHARTaDA
GGER KNIFEaLIPSaSPEAKING HEAD IN SILHOUETTEaTHREE RAYS ABOVEcBELOWcLEFTcRIGHTaLEFT SPEECH BUBBLEaRIG
HT SPEECH BUBBLEaTWO SPEECH BUBBLESaTHREE SPEECH BUBBLESaLEFT THOUGHT BUBBLEaRIGHT THOUGHT BUBBLEaLE
FT ANGER BUBBLEaRIGHT ANGER BUBBLEaMOOD BUBBLEaLIGHTNING MOOD BUBBLEbMOODaBALLOT BOX WITH BALLOTbSCR
IPT XbBOX WITH SCRIPT XbBOLD SCRIPT XbBOX WITH BOLD SCRIPT XaLIGHT CHECK MARKaBALLOT BOX WITH BOLD C
HECKaWORLD MAPaMOUNT FUJIaTOKYO TOWERaSTATUE OF LIBERTYaSILHOUETTE OF JAPANaMOYAIaGRINNING FACEbFAC
E WITH SMILING EYESaFACE WITH TEARS OF JOYaSMILING FACE WITH OPEN MOUTHeMOUTH AND SMILING EYESgCOL
D SWEATgTIGHTLY-CLOSED EYESdHALOdHORNSaWINKING FACEaSMILING FACE WITH SMILING EYESaFACE SAVOURING DE
LICIOUS FOODaRELIEVED FACEaSMILING FACE WITH HEART-SHAPED EYESdSUNGLASSESaSMIRKING FACEaNEUTRAL FACE
aEXPRESSIONLESS FACEaUNAMUSED FACEaFACE WITH COLD SWEATaPENSIVE FACEaCONFUSED FACEaCONFOUNDED FACEaK
ISSING FACEaFACE THROWING A KISSaKISSING FACE WITH SMILING EYESdCLOSED EYESaFACE WITH STUCK-OUT TONG
UEeTONGUE AND WINKING EYEgTIGHTLY-CLOSED EYESaDISAPPOINTED FACEaWORRIED FACEaANGRY FACEaPOUTING FACE
aCRYING FACEaPERSEVERING FACEaFACE WITH LOOK OF TRIUMPHaDISAPPOINTED BUT RELIEVED FACEaFROWNING FAC
E WITH OPEN MOUTHaANGUISHED FACEaFEARFUL FACEaWEARY FACEaSLEEPY FACEaTIRED FACEaGRIMACING FACEaLOUDL
Y CRYING FACEaFACE WITH OPEN MOUTHaHUSHED FACEaFACE WITH OPEN MOUTH AND COLD SWEATbSCREAMING IN FEAR
aASTONISHED FACEaFLUSHED FACEaSLEEPING FACEaDIZZY FACEaFACE WITHOUT MOUTHbWITH MEDICAL MASKaGRINNIN
G CAT FACE WITH SMILING EYESaCAT FACE WITH TEARS OF JOYaSMILING CAT FACE WITH OPEN MOUTHeHEART-SHAPE
D EYESaCAT FACE WITH WRY SMILEaKISSING CAT FACE WITH CLOSED EYESaPOUTING CAT FACEaCRYING CAT FACEaWE
ARY CAT FACEaSLIGHTLY FROWNING FACEbSMILING FACEaUPSIDE-DOWN FACEaFACE WITH ROLLING EYEScNO GOOD GES
TUREcOK GESTUREaPERSON BOWING DEEPLYaSEE-NO-EVIL MONKEYaHEAR-NO-EVIL MONKEYaSPEAK-NO-EVIL MONKEYaHAP
PY PERSON RAISING ONE HANDaPERSON RAISING BOTH HANDS IN CELEBRATIONbFROWNINGbWITH POUTING FACEcFOLDE
D HANDSaNORTH WEST POINTING LEAFaSOUTH WEST POINTING LEAFaNORTH EAST POINTING LEAFaSOUTH EAST POINTI
NG LEAFaTURNED NORTH WEST POINTING LEAFbSOUTH WEST POINTING LEAFbNORTH EAST POINTING LEAFbSOUTH EAS
T POINTING LEAFaNORTH WEST POINTING VINE LEAFaSOUTH WEST POINTING VINE LEAFaNORTH EAST POINTING VIN
E LEAFaSOUTH EAST POINTING VINE LEAFaHEAVY NORTH WEST POINTING VINE LEAFbSOUTH WEST POINTING VINE LE
AFbNORTH EAST POINTING VINE LEAFbSOUTH EAST POINTING VINE LEAFaNORTH WEST POINTING BUDaSOUTH WEST PO
INTING BUDaNORTH EAST POINTING BUDaSOUTH EAST POINTING BUDaHEAVY NORTH WEST POINTING BUDbSOUTH WES
T POINTING BUDbNORTH EAST POINTING BUDbSOUTH EAST POINTING BUDaHOLLOW QUILT SQUARE ORNAMENTdORNAMEN
T IN BLACK SQUAREaSOLID QUILT SQUARE ORNAMENTdORNAMENT IN BLACK SQUAREaLEFTWARDS ROCKETaUPWARDS ROCK
ETaRIGHTWARDS ROCKETaDOWNWARDS ROCKETaSCRIPT LIGATURE ET ORNAMENTaHEAVY SCRIPT LIGATURE ET ORNAMENTa
LIGATURE OPEN ET ORNAMENTaHEAVY LIGATURE OPEN ET ORNAMENTbAMPERSAND ORNAMENTaSWASH AMPERSAND ORNAMEN
TaSANS-SERIF HEAVY DOUBLE TURNED COMMA QUOTATION MARK ORNAMENTeCOMMA QUOTATION MARK ORNAMENTdLOW DOU
BLE COMMA QUOTATION MARK ORNAMENTaHEAVY INTERROBANG ORNAMENTaSANS-SERIF INTERROBANG ORNAMENTaHEAVY S
ANS-SERIF INTERROBANG ORNAMENTaVERY HEAVY SOLIDUScREVERSE SOLIDUSaCHECKER BOARDaREVERSE CHECKER BOAR
DaROCKETaHELICOPTERaSTEAM LOCOMOTIVEaRAILWAY CARaHIGH-SPEED TRAINcTRAIN WITH BULLET NOSEaTRAINaMETRO
aLIGHT RAILaSTATIONaTRAMaTRAM CARaBUSaONCOMING BUSaTROLLEYBUSaBUS STOPaMINIBUSaAMBULANCEaFIRE ENGINE
aPOLICE CARaONCOMING POLICE CARaTAXIaONCOMING TAXIaAUTOMOBILEaONCOMING AUTOMOBILEaRECREATIONAL VEHIC
LEaDELIVERY TRUCKaARTICULATED LORRYaTRACTORaMONORAILaMOUNTAIN RAILWAYaSUSPENSION RAILWAYaMOUNTAIN CA
BLEWAYaAERIAL TRAMWAYaSHIPaROWBOATaSPEEDBOATaHORIZONTAL TRAFFIC LIGHTaVERTICAL TRAFFIC LIGHTaCONSTRU
CTION SIGNaPOLICE CARS REVOLVING LIGHTaTRIANGULAR FLAG ON POSTaDOORaNO ENTRY SIGNaSMOKING SYMBOLaN
O SMOKING SYMBOLaPUT LITTER IN ITS PLACE SYMBOLaDO NOT LITTER SYMBOLaPOTABLE WATER SYMBOLaNON-POTABL
E WATER SYMBOLaBICYCLEaNO BICYCLESaBICYCLISTaMOUNTAIN BICYCLISTaPEDESTRIANaNO PEDESTRIANSaCHILDREN C
ROSSINGaMENS SYMBOLaWOMENS SYMBOLaRESTROOMaBABY SYMBOLaTOILETaWATER CLOSETaSHOWERaBATHaBATHTUBaPASSP
ORT CONTROLaCUSTOMSaBAGGAGE CLAIMaLEFT LUGGAGEaTRIANGLE WITH ROUNDED CORNERSaPROHIBITED SIGNaCIRCLE
D INFORMATION SOURCEaBOYS SYMBOLaGIRLS SYMBOLaCOUCH AND LAMPaSLEEPING ACCOMMODATIONaSHOPPING BAGSaBE
LLHOP BELLaBEDaPLACE OF WORSHIPaOCTAGONAL SIGNaSHOPPING TROLLEYaSTUPAaPAGODAaHINDU TEMPLEaHUTaELEVAT
OR=1F6DDaPLAYGROUND SLIDEaWHEELaRING BUOYaHAMMER AND WRENCHaSHIELDaOIL DRUMaMOTORWAYaRAILWAY TRACKaM
OTOR BOATaUP-POINTING MILITARY AIRPLANEcAIRPLANEcSMALL AIRPLANEaSMALL AIRPLANEaNORTHEAST-POINTING AI
RPLANEaAIRPLANE DEPARTUREbARRIVING=1F6F0aSATELLITEaONCOMING FIRE ENGINEaDIESEL LOCOMOTIVEaPASSENGE
R SHIPaSCOOTERaMOTOR SCOOTERaCANOEaSLEDaFLYING SAUCERaSKATEBOARDaAUTO RICKSHAWaPICKUP TRUCKaROLLER S
KATE=1F700aALCHEMICAL SYMBOL FOR QUINTESSENCEdAIRdFIREdEARTHdWATERdAQUAFORTISdAQUA REGIAeREGIA-2eVIT
AEeVITAE-2dVINEGARdVINEGAR-2e3dSULFURdPHILOSOPHERS SULFURdBLACK SULFURdMERCURY SUBLIMATEeSUBLIMATE-2
f3dCINNABARdSALTdNITREdVITRIOLdVITRIOL-2dROCK SALTeSALT-2dGOLDdSILVERdIRON OREeORE-2dCROCUS OF IRONd
REGULUS OF IRONdCOPPER OREdIRON-COPPER OREdSUBLIMATE OF COPPERdCROCUS OF COPPERfCOPPER-2dCOPPER ANTI
MONIATEdSALT OF COPPER ANTIMONIATEdSUBLIMATE OF SALT OF COPPERdVERDIGRISdTIN OREdLEAD OREdANTIMONY O
REdSUBLIMATE OF ANTIMONYdSALT OF ANTIMONYdSUBLIMATE OF SALT OF ANTIMONYdVINEGAR OF ANTIMONYdREGULU
S OF ANTIMONYfANTIMONY-2dREGULUSdREGULUS-2e3e4dALKALIdALKALI-2dMARCASITEdSAL-AMMONIACdARSENICdREALGA
RdREALGAR-2dAURIPIGMENTdBISMUTH OREdTARTARdTARTAR-2dQUICK LIMEdBORAXdBORAX-2e3dALUMdOILdSPIRITdTINCT
UREdGUMdWAXdPOWDERdCALXdTUTTYdCAPUT MORTUUMdSCEPTER OF JOVEdCADUCEUSdTRIDENTdSTARRED TRIDENTdLODESTO
NEdSOAPdURINEdHORSE DUNGdASHESdPOT ASHESdBRICKdPOWDERED BRICKdAMALGAMdSTRATUM SUPER STRATUMfSTRATUM-
2dSUBLIMATIONdPRECIPITATEdDISTILLdDISSOLVEdDISSOLVE-2dPURIFYdPUTREFACTIONdCRUCIBLEdCRUCIBLE-2e3e4e5d
ALEMBICdBATH OF MARYfVAPOURSdRETORTdHOURdNIGHTdDAY-NIGHTdMONTHdHALF DRAMeOUNCE=1F780aBLACK LEFT-POIN
TING ISOSCELES RIGHT TRIANGLEbUP-POINTING ISOSCELES RIGHT TRIANGLEbRIGHT-POINTING ISOSCELES RIGHT TR
IANGLEbDOWN-POINTING ISOSCELES RIGHT TRIANGLEbSLIGHTLY SMALL CIRCLEaMEDIUM BOLD WHITE CIRCLEaBOLD WH
ITE CIRCLEaHEAVY WHITE CIRCLEaVERY HEAVY WHITE CIRCLEaEXTREMELY HEAVY WHITE CIRCLEaWHITE CIRCLE CONT
AINING BLACK SMALL CIRCLEaROUND TARGETaBLACK TINY SQUAREbSLIGHTLY SMALL SQUAREaLIGHT WHITE SQUAREaME
DIUM WHITE SQUAREaBOLD WHITE SQUAREaHEAVY WHITE SQUAREaVERY HEAVY WHITE SQUAREaEXTREMELY HEAVY WHIT
E SQUAREaWHITE SQUARE CONTAINING BLACK VERY SMALL SQUAREeMEDIUM SQUAREaSQUARE TARGETaBLACK TINY DIAM
ONDbVERY SMALL DIAMONDbMEDIUM SMALL DIAMONDaWHITE DIAMOND CONTAINING BLACK VERY SMALL DIAMONDeMEDIU
M DIAMONDaDIAMOND TARGETaBLACK TINY LOZENGEbVERY SMALL LOZENGEbMEDIUM SMALL LOZENGEaWHITE LOZENGE CO
NTAINING BLACK SMALL LOZENGEaTHIN GREEK CROSSaLIGHT GREEK CROSSaMEDIUM GREEK CROSSaBOLD GREEK CROSSa
VERY BOLD GREEK CROSSbHEAVY GREEK CROSSaEXTREMELY HEAVY GREEK CROSSaTHIN SALTIREaLIGHT SALTIREaMEDIU
M SALTIREaBOLD SALTIREaHEAVY SALTIREaVERY HEAVY SALTIREaEXTREMELY HEAVY SALTIREaLIGHT FIVE SPOKED AS
TERISKaMEDIUM FIVE SPOKED ASTERISKaBOLD FIVE SPOKED ASTERISKaHEAVY FIVE SPOKED ASTERISKaVERY HEAVY F
IVE SPOKED ASTERISKaEXTREMELY HEAVY FIVE SPOKED ASTERISKaLIGHT SIX SPOKED ASTERISKaMEDIUM SIX SPOKE
D ASTERISKaBOLD SIX SPOKED ASTERISKaHEAVY SIX SPOKED ASTERISKaVERY HEAVY SIX SPOKED ASTERISKaEXTREME
LY HEAVY SIX SPOKED ASTERISKaLIGHT EIGHT SPOKED ASTERISKaMEDIUM EIGHT SPOKED ASTERISKaBOLD EIGHT SPO
KED ASTERISKaHEAVY EIGHT SPOKED ASTERISKaVERY HEAVY EIGHT SPOKED ASTERISKaLIGHT THREE POINTED BLAC
K STARaMEDIUM THREE POINTED BLACK STARaTHREE POINTED BLACK STARaMEDIUM THREE POINTED PINWHEEL STARaL
IGHT FOUR POINTED BLACK STARaMEDIUM FOUR POINTED BLACK STARaFOUR POINTED BLACK STARaMEDIUM FOUR POIN
TED PINWHEEL STARaREVERSE LIGHT FOUR POINTED PINWHEEL STARaLIGHT FIVE POINTED BLACK STARaHEAVY FIV
E POINTED BLACK STARaMEDIUM SIX POINTED BLACK STARaHEAVY SIX POINTED BLACK STARaSIX POINTED PINWHEE
L STARaMEDIUM EIGHT POINTED BLACK STARaHEAVY EIGHT POINTED BLACK STARaVERY HEAVY EIGHT POINTED BLAC
K STARaHEAVY EIGHT POINTED PINWHEEL STARaLIGHT TWELVE POINTED BLACK STARaHEAVY TWELVE POINTED BLAC
K STARdPINWHEEL STARaCIRCLED TRIANGLEaNEGATIVE CIRCLED TRIANGLEaCIRCLED SQUAREaNEGATIVE CIRCLED SQUA
RE=1F7E0aLARGE ORANGE CIRCLEbYELLOW CIRCLEbGREEN CIRCLEbPURPLE CIRCLEbBROWN CIRCLEbRED SQUAREbBLUE S
QUAREbORANGE SQUAREbYELLOW SQUAREbGREEN SQUAREbPURPLE SQUAREbBROWN SQUARE=1F7F0aHEAVY EQUALS SIGN=1F
800aLEFTWARDS ARROW WITH SMALL TRIANGLE ARROWHEADaUPWARDS ARROW WITH SMALL TRIANGLE ARROWHEADaRIGHTW
ARDS ARROW WITH SMALL TRIANGLE ARROWHEADaDOWNWARDS ARROW WITH SMALL TRIANGLE ARROWHEADaLEFTWARDS ARR
OW WITH MEDIUM TRIANGLE ARROWHEADaUPWARDS ARROW WITH MEDIUM TRIANGLE ARROWHEADaRIGHTWARDS ARROW WIT
H MEDIUM TRIANGLE ARROWHEADaDOWNWARDS ARROW WITH MEDIUM TRIANGLE ARROWHEADaLEFTWARDS ARROW WITH LARG
E TRIANGLE ARROWHEADaUPWARDS ARROW WITH LARGE TRIANGLE ARROWHEADaRIGHTWARDS ARROW WITH LARGE TRIANGL
E ARROWHEADaDOWNWARDS ARROW WITH LARGE TRIANGLE ARROWHEAD=1F810aLEFTWARDS ARROW WITH SMALL EQUILATER
AL ARROWHEADaUPWARDS ARROW WITH SMALL EQUILATERAL ARROWHEADaRIGHTWARDS ARROW WITH SMALL EQUILATERA
L ARROWHEADaDOWNWARDS ARROW WITH SMALL EQUILATERAL ARROWHEADaLEFTWARDS ARROW WITH EQUILATERAL ARROWH
EADaUPWARDS ARROW WITH EQUILATERAL ARROWHEADaRIGHTWARDS ARROW WITH EQUILATERAL ARROWHEADaDOWNWARDS A
RROW WITH EQUILATERAL ARROWHEADaHEAVY LEFTWARDS ARROW WITH EQUILATERAL ARROWHEADbUPWARDS ARROW WIT
H EQUILATERAL ARROWHEADbRIGHTWARDS ARROW WITH EQUILATERAL ARROWHEADbDOWNWARDS ARROW WITH EQUILATERA
L ARROWHEADbLEFTWARDS ARROW WITH LARGE EQUILATERAL ARROWHEADbUPWARDS ARROW WITH LARGE EQUILATERAL AR
ROWHEADbRIGHTWARDS ARROW WITH LARGE EQUILATERAL ARROWHEADbDOWNWARDS ARROW WITH LARGE EQUILATERAL ARR
OWHEADaLEFTWARDS TRIANGLE-HEADED ARROW WITH NARROW SHAFTaUPWARDS TRIANGLE-HEADED ARROW WITH NARROW S
HAFTaRIGHTWARDS TRIANGLE-HEADED ARROW WITH NARROW SHAFTaDOWNWARDS TRIANGLE-HEADED ARROW WITH NARRO
W SHAFTaLEFTWARDS TRIANGLE-HEADED ARROW WITH MEDIUM SHAFTaUPWARDS TRIANGLE-HEADED ARROW WITH MEDIU
M SHAFTaRIGHTWARDS TRIANGLE-HEADED ARROW WITH MEDIUM SHAFTaDOWNWARDS TRIANGLE-HEADED ARROW WITH MEDI
UM SHAFTaLEFTWARDS TRIANGLE-HEADED ARROW WITH BOLD SHAFTaUPWARDS TRIANGLE-HEADED ARROW WITH BOLD SHA
FTaRIGHTWARDS TRIANGLE-HEADED ARROW WITH BOLD SHAFTaDOWNWARDS TRIANGLE-HEADED ARROW WITH BOLD SHAFTa
LEFTWARDS TRIANGLE-HEADED ARROW WITH HEAVY SHAFTaUPWARDS TRIANGLE-HEADED ARROW WITH HEAVY SHAFTaRIGH
TWARDS TRIANGLE-HEADED ARROW WITH HEAVY SHAFTaDOWNWARDS TRIANGLE-HEADED ARROW WITH HEAVY SHAFTaLEFTW
ARDS TRIANGLE-HEADED ARROW WITH VERY HEAVY SHAFTaUPWARDS TRIANGLE-HEADED ARROW WITH VERY HEAVY SHAFT
aRIGHTWARDS TRIANGLE-HEADED ARROW WITH VERY HEAVY SHAFTaDOWNWARDS TRIANGLE-HEADED ARROW WITH VERY HE
AVY SHAFTaLEFTWARDS FINGER-POST ARROWaUPWARDS FINGER-POST ARROWaRIGHTWARDS FINGER-POST ARROWaDOWNWAR
DS FINGER-POST ARROWaLEFTWARDS SQUARED ARROWaUPWARDS SQUARED ARROWaRIGHTWARDS SQUARED ARROWaDOWNWARD
S SQUARED ARROWaLEFTWARDS COMPRESSED ARROWaUPWARDS COMPRESSED ARROWaRIGHTWARDS COMPRESSED ARROWaDOWN
WARDS COMPRESSED ARROWaLEFTWARDS HEAVY COMPRESSED ARROWaUPWARDS HEAVY COMPRESSED ARROWaRIGHTWARDS HE
AVY COMPRESSED ARROWaDOWNWARDS HEAVY COMPRESSED ARROWaLEFTWARDS HEAVY ARROWaUPWARDS HEAVY ARROWaRIGH
TWARDS HEAVY ARROWaDOWNWARDS HEAVY ARROW=1F850aLEFTWARDS SANS-SERIF ARROWaUPWARDS SANS-SERIF ARROWaR
IGHTWARDS SANS-SERIF ARROWaDOWNWARDS SANS-SERIF ARROWaNORTH WEST SANS-SERIF ARROWbEAST SANS-SERIF AR
ROWaSOUTH EAST SANS-SERIF ARROWbWEST SANS-SERIF ARROWaLEFT RIGHT SANS-SERIF ARROWaUP DOWN SANS-SERI
F ARROW=1F860aWIDE-HEADED LEFTWARDS LIGHT BARB ARROWcUPWARDS LIGHT BARB ARROWcRIGHTWARDS LIGHT BAR
B ARROWcDOWNWARDS LIGHT BARB ARROWcNORTH WEST LIGHT BARB ARROWdEAST LIGHT BARB ARROWcSOUTH EAST LIGH
T BARB ARROWdWEST LIGHT BARB ARROWcLEFTWARDS BARB ARROWcUPWARDS BARB ARROWcRIGHTWARDS BARB ARROWcDOW
NWARDS BARB ARROWcNORTH WEST BARB ARROWdEAST BARB ARROWcSOUTH EAST BARB ARROWdWEST BARB ARROWcLEFTWA
RDS MEDIUM BARB ARROWcUPWARDS MEDIUM BARB ARROWcRIGHTWARDS MEDIUM BARB ARROWcDOWNWARDS MEDIUM BARB A
RROWcNORTH WEST MEDIUM BARB ARROWdEAST MEDIUM BARB ARROWcSOUTH EAST MEDIUM BARB ARROWdWEST MEDIUM BA
RB ARROWcLEFTWARDS HEAVY BARB ARROWcUPWARDS HEAVY BARB ARROWcRIGHTWARDS HEAVY BARB ARROWcDOWNWARDS H
EAVY BARB ARROWcNORTH WEST HEAVY BARB ARROWdEAST HEAVY BARB ARROWcSOUTH EAST HEAVY BARB ARROWdWEST H
EAVY BARB ARROWcLEFTWARDS VERY HEAVY BARB ARROWcUPWARDS VERY HEAVY BARB ARROWcRIGHTWARDS VERY HEAV
Y BARB ARROWcDOWNWARDS VERY HEAVY BARB ARROWcNORTH WEST VERY HEAVY BARB ARROWdEAST VERY HEAVY BARB A
RROWcSOUTH EAST VERY HEAVY BARB ARROWdWEST VERY HEAVY BARB ARROW=1F890aLEFTWARDS TRIANGLE ARROWHEADa
UPWARDS TRIANGLE ARROWHEADaRIGHTWARDS TRIANGLE ARROWHEADaDOWNWARDS TRIANGLE ARROWHEADaLEFTWARDS WHIT
E ARROW WITHIN TRIANGLE ARROWHEADaUPWARDS WHITE ARROW WITHIN TRIANGLE ARROWHEADaRIGHTWARDS WHITE ARR
OW WITHIN TRIANGLE ARROWHEADaDOWNWARDS WHITE ARROW WITHIN TRIANGLE ARROWHEADaLEFTWARDS ARROW WITH NO
TCHED TAILaUPWARDS ARROW WITH NOTCHED TAILaRIGHTWARDS ARROW WITH NOTCHED TAILaDOWNWARDS ARROW WITH N
OTCHED TAILaHEAVY ARROW SHAFT WIDTH ONEeTWO THIRDSeONE HALFfTHIRDaLEFTWARDS BOTTOM-SHADED WHITE ARRO
WaRIGHTWARDS BOTTOM SHADED WHITE ARROWaLEFTWARDS TOP SHADED WHITE ARROWaRIGHTWARDS TOP SHADED WHIT
E ARROWaLEFTWARDS LEFT-SHADED WHITE ARROWaRIGHTWARDS RIGHT-SHADED WHITE ARROWaLEFTWARDS RIGHT-SHADE
D WHITE ARROWaRIGHTWARDS LEFT-SHADED WHITE ARROWaLEFTWARDS BACK-TILTED SHADOWED WHITE ARROWaRIGHTWAR
DS BACK-TILTED SHADOWED WHITE ARROWaLEFTWARDS FRONT-TILTED SHADOWED WHITE ARROWaRIGHTWARDS FRONT-TIL
TED SHADOWED WHITE ARROWaWHITE ARROW SHAFT WIDTH ONEeTWO THIRDS=1F8B0aARROW POINTING UPWARDS THEN NO
RTH WESTcRIGHTWARDS THEN CURVING SOUTH WEST=1F900aCIRCLED CROSS FORMEE WITH FOUR DOTSeTWO DOTScFORME
EaLEFT HALF CIRCLE WITH FOUR DOTSeTHREE DOTSeTWO DOTSeDOTcCIRCLEaDOWNWARD FACING HOOKcNOTCHED HOOKcH
OOK WITH DOTcNOTCHED HOOK WITH DOTaPINCHED FINGERSaWHITE HEARTaBROWN HEARTaPINCHING HANDaZIPPER-MOUT
H FACEaMONEY-MOUTH FACEaFACE WITH THERMOMETERaNERD FACEaTHINKING FACEaFACE WITH HEAD-BANDAGEaROBOT F
ACEaHUGGING FACEaSIGN OF THE HORNSaCALL ME HANDaRAISED BACK OF HANDaLEFT-FACING FISTaRIGHT-FACING FI
STaHANDSHAKEaHAND WITH INDEX AND MIDDLE FINGERS CROSSEDaI LOVE YOU HAND SIGNaFACE WITH COWBOY HATaCL
OWN FACEaNAUSEATED FACEaROLLING ON THE FLOOR LAUGHINGaDROOLING FACEaLYING FACEaFACE PALMaSNEEZING FA
CEaFACE WITH ONE EYEBROW RAISEDaGRINNING FACE WITH STAR EYESdONE LARGE AND ONE SMALL EYEaFACE WITH F
INGER COVERING CLOSED LIPSaSERIOUS FACE WITH SYMBOLS COVERING MOUTHaSMILING FACE WITH SMILING EYES A
ND HAND COVERING MOUTHaFACE WITH OPEN MOUTH VOMITINGaSHOCKED FACE WITH EXPLODING HEADaPREGNANT WOMAN
aBREAST-FEEDINGaPALMS UP TOGETHERaSELFIEaPRINCEaMAN IN TUXEDOaMOTHER CHRISTMASaSHRUGaPERSON DOING CA
RTWHEELaJUGGLINGaFENCERaMODERN PENTATHLONaWRESTLERSaWATER POLOaHANDBALLaDIVING MASKaWILTED FLOWERaDR
UM WITH DRUMSTICKSaCLINKING GLASSESaTUMBLER GLASSaSPOONaGOAL NETaRIFLEaFIRST PLACE MEDALaSECOND PLAC
E MEDALaTHIRD PLACE MEDALaBOXING GLOVEaMARTIAL ARTS UNIFORMaCURLING STONEaLACROSSE STICK AND BALLaSO
FTBALLaFLYING DISCaCROISSANTaAVOCADOaCUCUMBERaBACONaPOTATOaCARROTaBAGUETTE BREADaGREEN SALADaSHALLO
W PAN OF FOODaSTUFFED FLATBREADaEGGaGLASS OF MILKaPEANUTSaKIWIFRUITaPANCAKESaDUMPLINGaFORTUNE COOKIE
aTAKEOUT BOXaCHOPSTICKSaBOWL WITH SPOONaCUP WITH STRAWaCOCONUTaBROCCOLIaPIEaPRETZELaCUT OF MEATaSAND
WICHaCANNED FOODaLEAFY GREENaMANGOaMOON CAKEaBAGELaSMILING FACE WITH SMILING EYES AND THREE HEARTSaY
AWNING FACEaSMILING FACE WITH TEARaFACE WITH PARTY HORN AND PARTY HATcUNEVEN EYES AND WAVY MOUTHaOVE
RHEATED FACEaFREEZING FACEaNINJAaDISGUISED FACEaFACE HOLDING BACK TEARSbWITH PLEADING EYESaSARIaLA
B COATaGOGGLESaHIKING BOOTaFLAT SHOEaCRABaLION FACEaSCORPIONaTURKEYaUNICORN FACEaEAGLEaDUCKaBATaSHAR
KaOWLaFOX FACEaBUTTERFLYaDEERaGORILLAaLIZARDaRHINOCEROSaSHRIMPaSQUIDaGIRAFFE FACEaZEBRA FACEaHEDGEHO
GaSAUROPODaT-REXaCRICKETaKANGAROOaLLAMAaPEACOCKaHIPPOPOTAMUSaPARROTaRACCOONaLOBSTERaMOSQUITOaMICROBE
aBADGERaSWANaMAMMOTHaDODOaSLOTHaOTTERaORANGUTANaSKUNKaFLAMINGOaOYSTERaBEAVERaBISONaSEALaGUIDE DOGaPR
OBING CANEaEMOJI COMPONENT RED HAIRcCURLY HAIRcBALDcWHITE HAIRaBONEaLEGaFOOTaTOOTHaSUPERHEROaSUPERVI
LLAINaSAFETY VESTaEAR WITH HEARING AIDaMOTORIZED WHEELCHAIRaMANUAL WHEELCHAIRaMECHANICAL ARMbLEGaCHE
ESE WEDGEaCUPCAKEaSALT SHAKERaBEVERAGE BOXaGARLICaONIONaFALAFELaWAFFLEaBUTTERaMATE DRINKaICE CUBEaBU
BBLE TEAaTROLLaSTANDING PERSONaKNEELING PERSONaDEAF PERSONaFACE WITH MONOCLEaADULTaCHILDaOLDER ADULT
aBEARDED PERSONaPERSON WITH HEADSCARFbIN STEAMY ROOMbCLIMBINGbIN LOTUS POSITIONaMAGEaFAIRYaVAMPIREaM
ERPERSONaELFaGENIEaZOMBIEaBRAINaORANGE HEARTaBILLED CAPaSCARFaGLOVESaCOATaSOCKSaRED GIFT ENVELOPEaFI
RECRACKERaJIGSAW PUZZLE PIECEaTEST TUBEaPETRI DISHaDNA DOUBLE HELIXaCOMPASSaABACUSaFIRE EXTINGUISHER
aTOOLBOXaBRICKaMAGNETaLUGGAGEaLOTION BOTTLEaSPOOL OF THREADaBALL OF YARNaSAFETY PINaTEDDY BEARaBROOM
aBASKETaROLL OF PAPERaBAR OF SOAPaSPONGEaRECEIPTaNAZAR AMULETaNEUTRAL CHESS KINGcQUEENcROOKcBISHOPcK
NIGHTcPAWNaWHITE CHESS KNIGHT ROTATED FORTY-FIVE DEGREESaBLACK CHESS KNIGHT ROTATED FORTY-FIVE DEGRE
ESaNEUTRAL CHESS KNIGHT ROTATED FORTY-FIVE DEGREESaWHITE CHESS KING ROTATED NINETY DEGREEScQUEEN ROT
ATED NINETY DEGREEScROOK ROTATED NINETY DEGREEScBISHOP ROTATED NINETY DEGREEScKNIGHT ROTATED NINET
Y DEGREEScPAWN ROTATED NINETY DEGREESaBLACK CHESS KING ROTATED NINETY DEGREEScQUEEN ROTATED NINETY D
EGREEScROOK ROTATED NINETY DEGREEScBISHOP ROTATED NINETY DEGREEScKNIGHT ROTATED NINETY DEGREEScPAW
N ROTATED NINETY DEGREESaNEUTRAL CHESS KING ROTATED NINETY DEGREEScQUEEN ROTATED NINETY DEGREEScROO
K ROTATED NINETY DEGREEScBISHOP ROTATED NINETY DEGREEScKNIGHT ROTATED NINETY DEGREEScPAWN ROTATED NI
NETY DEGREESaWHITE CHESS KNIGHT ROTATED ONE HUNDRED THIRTY-FIVE DEGREESaBLACK CHESS KNIGHT ROTATED O
NE HUNDRED THIRTY-FIVE DEGREESaNEUTRAL CHESS KNIGHT ROTATED ONE HUNDRED THIRTY-FIVE DEGREESaWHITE CH
ESS TURNED KINGdQUEENdROOKdBISHOPdKNIGHTdPAWNaBLACK CHESS TURNED KINGdQUEENdROOKdBISHOPdKNIGHTdPAWNa
NEUTRAL CHESS TURNED KINGdQUEENdROOKdBISHOPdKNIGHTdPAWNaWHITE CHESS KNIGHT ROTATED TWO HUNDRED TWENT
Y-FIVE DEGREESaBLACK CHESS KNIGHT ROTATED TWO HUNDRED TWENTY-FIVE DEGREESaNEUTRAL CHESS KNIGHT ROTAT
ED TWO HUNDRED TWENTY-FIVE DEGREESaWHITE CHESS KING ROTATED TWO HUNDRED SEVENTY DEGREEScQUEEN ROTATE
D TWO HUNDRED SEVENTY DEGREEScROOK ROTATED TWO HUNDRED SEVENTY DEGREEScBISHOP ROTATED TWO HUNDRED SE
VENTY DEGREEScKNIGHT ROTATED TWO HUNDRED SEVENTY DEGREEScPAWN ROTATED TWO HUNDRED SEVENTY DEGREESaBL
ACK CHESS KING ROTATED TWO HUNDRED SEVENTY DEGREEScQUEEN ROTATED TWO HUNDRED SEVENTY DEGREEScROOK RO
TATED TWO HUNDRED SEVENTY DEGREEScBISHOP ROTATED TWO HUNDRED SEVENTY DEGREEScKNIGHT ROTATED TWO HUND
RED SEVENTY DEGREEScPAWN ROTATED TWO HUNDRED SEVENTY DEGREESaNEUTRAL CHESS KING ROTATED TWO HUNDRE
D SEVENTY DEGREEScQUEEN ROTATED TWO HUNDRED SEVENTY DEGREEScROOK ROTATED TWO HUNDRED SEVENTY DEGREES
cBISHOP ROTATED TWO HUNDRED SEVENTY DEGREEScKNIGHT ROTATED TWO HUNDRED SEVENTY DEGREEScPAWN ROTATE
D TWO HUNDRED SEVENTY DEGREESaWHITE CHESS KNIGHT ROTATED THREE HUNDRED FIFTEEN DEGREESaBLACK CHESS K
NIGHT ROTATED THREE HUNDRED FIFTEEN DEGREESaNEUTRAL CHESS KNIGHT ROTATED THREE HUNDRED FIFTEEN DEGRE
ESaWHITE CHESS EQUIHOPPERaBLACK CHESS EQUIHOPPERaNEUTRAL CHESS EQUIHOPPERaWHITE CHESS EQUIHOPPER ROT
ATED NINETY DEGREESaBLACK CHESS EQUIHOPPER ROTATED NINETY DEGREESaNEUTRAL CHESS EQUIHOPPER ROTATED N
INETY DEGREESaWHITE CHESS KNIGHT-QUEENdROOKdBISHOPaBLACK CHESS KNIGHT-QUEENdROOKdBISHOP=1FA60aXIANGQ
I RED GENERALcMANDARINcELEPHANTcHORSEcCHARIOTcCANNONcSOLDIERbBLACK GENERALcMANDARINcELEPHANTcHORSEcC
HARIOTcCANNONcSOLDIER=1FA70aBALLET SHOESaONE-PIECE SWIMSUITaBRIEFSaSHORTSaTHONG SANDAL=1FA78aDROP O
F BLOODaADHESIVE BANDAGEaSTETHOSCOPEaX-RAYaCRUTCH=1FA80aYO-YOaKITEaPARACHUTEaBOOMERANGaMAGIC WANDaPI
NATAaNESTING DOLLS=1FA90aRINGED PLANETaCHAIRaRAZORaAXEaDIYA LAMPaBANJOaMILITARY HELMETaACCORDIONaLON
G DRUMaCOINaCARPENTRY SAWaSCREWDRIVERaLADDERaHOOKaMIRRORaWINDOWaPLUNGERaSEWING NEEDLEaKNOTaBUCKETaMO
USE TRAPaTOOTHBRUSHaHEADSTONEaPLACARDaROCKaMIRROR BALLaIDENTIFICATION CARDaLOW BATTERYaHAMSA=1FAB0aF
LYaWORMaBEETLEaCOCKROACHaPOTTED PLANTaWOODaFEATHERaLOTUSaCORALaEMPTY NESTaNEST WITH EGGS=1FAC0aANATO
MICAL HEARTaLUNGSaPEOPLE HUGGINGaPREGNANT MANbPERSONaPERSON WITH CROWN=1FAD0aBLUEBERRIESaBELL PEPPER
aOLIVEaFLATBREADaTAMALEaFONDUEaTEAPOTaPOURING LIQUIDaBEANSaJAR=1FAE0aMELTING FACEaSALUTING FACEaFAC
E WITH OPEN EYES AND HAND OVER MOUTHcPEEKING EYEcDIAGONAL MOUTHaDOTTED LINE FACEaBITING LIPaBUBBLES=
1FAF0aHAND WITH INDEX FINGER AND THUMB CROSSEDaRIGHTWARDS HANDaLEFTWARDS HANDaPALM DOWN HANDbUP HAND
aINDEX POINTING AT THE VIEWERaHEART HANDS=1FB00aBLOCK SEXTANT-1c2c12c3c13c23c123c4c14c24c124c34c134c
234c1234c5c15c25c125c35c235c1235c45c145c245c1245c345c1345c2345c12345c6c16c26c126c36c136c236c1236c46c
146c1246c346c1346c2346c12346c56c156c256c1256c356c1356c2356c12356c456c1456c2456c12456c3456c13456c2345
6aLOWER LEFT BLOCK DIAGONAL LOWER MIDDLE LEFT TO LOWER CENTREjRIGHTeUPPER MIDDLE LEFT TO LOWER CENTR
EjRIGHTfLEFT TO LOWER CENTREbRIGHT BLOCK DIAGONAL UPPER MIDDLE LEFT TO UPPER CENTREjRIGHTeLOWER MIDD
LE LEFT TO UPPER CENTREjRIGHTfLEFT TO UPPER CENTREfMIDDLE LEFT TO UPPER MIDDLE RIGHTfCENTRE TO LOWE
R MIDDLE RIGHTfLEFT TO LOWER MIDDLE RIGHTfCENTRE TO UPPER MIDDLE RIGHTfLEFT TO UPPER MIDDLE RIGHTfCE
NTRE TO UPPER RIGHTbLEFT BLOCK DIAGONAL UPPER CENTRE TO UPPER MIDDLE RIGHTfLEFT TO UPPER MIDDLE RIGH
TfCENTRE TO LOWER MIDDLE RIGHTfLEFT TO LOWER MIDDLE RIGHTfCENTRE TO LOWER RIGHTfMIDDLE LEFT TO LOWE
R MIDDLE RIGHTaUPPER RIGHT BLOCK DIAGONAL LOWER MIDDLE LEFT TO LOWER CENTREjRIGHTeUPPER MIDDLE LEF
T TO LOWER CENTREjRIGHTfLEFT TO LOWER CENTREbLEFT BLOCK DIAGONAL UPPER MIDDLE LEFT TO UPPER CENTREjR
IGHTeLOWER MIDDLE LEFT TO UPPER CENTREjRIGHTfLEFT TO UPPER CENTREfMIDDLE LEFT TO UPPER MIDDLE RIGHTf
CENTRE TO LOWER MIDDLE RIGHTfLEFT TO LOWER MIDDLE RIGHTfCENTRE TO UPPER MIDDLE RIGHTfLEFT TO UPPER M
IDDLE RIGHTfCENTRE TO UPPER RIGHTbRIGHT BLOCK DIAGONAL UPPER CENTRE TO UPPER MIDDLE RIGHTfLEFT TO UP
PER MIDDLE RIGHTfCENTRE TO LOWER MIDDLE RIGHTfLEFT TO LOWER MIDDLE RIGHTfCENTRE TO LOWER RIGHTfMIDDL
E LEFT TO LOWER MIDDLE RIGHTbAND RIGHT AND LOWER TRIANGULAR THREE QUARTERS BLOCKaLEFT AND LOWER AN
D RIGHT TRIANGULAR THREE QUARTERS BLOCKaUPPER AND LEFT AND LOWER TRIANGULAR THREE QUARTERS BLOCKaLEF
T AND UPPER AND RIGHT TRIANGULAR THREE QUARTERS BLOCKbTRIANGULAR ONE QUARTER BLOCKaUPPER TRIANGULA
R ONE QUARTER BLOCKaRIGHT TRIANGULAR ONE QUARTER BLOCKaLOWER TRIANGULAR ONE QUARTER BLOCKaVERTICAL O
NE EIGHTH BLOCK-2e3e4e5e6e7aHORIZONTAL ONE EIGHTH BLOCK-2e3e4e5e6e7aLEFT AND LOWER ONE EIGHTH BLOCKc
UPPER ONE EIGHTH BLOCKaRIGHT AND UPPER ONE EIGHTH BLOCKcLOWER ONE EIGHTH BLOCKaUPPER AND LOWER ONE E
IGHTH BLOCKaHORIZONTAL ONE EIGHTH BLOCK-1358aUPPER ONE QUARTER BLOCKbTHREE EIGHTHS BLOCKbFIVE EIGHTH
S BLOCKbTHREE QUARTERS BLOCKbSEVEN EIGHTHS BLOCKaRIGHT ONE QUARTER BLOCKbTHREE EIGHTHS BLOCKbFIVE EI
GHTHS BLOCKbTHREE QUARTERS BLOCKbSEVEN EIGHTHS BLOCKaLEFT HALF MEDIUM SHADEaRIGHT HALF MEDIUM SHADEa
UPPER HALF MEDIUM SHADEaLOWER HALF MEDIUM SHADEaINVERSE MEDIUM SHADEaUPPER HALF BLOCK AND LOWER HAL
F INVERSE MEDIUM SHADEcINVERSE MEDIUM SHADE AND LOWER HALF BLOCK=1FB94aLEFT HALF INVERSE MEDIUM SHAD
E AND RIGHT HALF BLOCKaCHECKER BOARD FILLaINVERSE CHECKER BOARD FILLaHEAVY HORIZONTAL FILLaUPPER LEF
T TO LOWER RIGHT FILLbRIGHT TO LOWER LEFT FILLbAND LOWER TRIANGULAR HALF BLOCKaLEFT AND RIGHT TRIANG
ULAR HALF BLOCKaUPPER LEFT TRIANGULAR MEDIUM SHADEbRIGHT TRIANGULAR MEDIUM SHADEaLOWER RIGHT TRIANGU
LAR MEDIUM SHADEbLEFT TRIANGULAR MEDIUM SHADEaBOX DRAWINGS LIGHT DIAGONAL UPPER CENTRE TO MIDDLE LEF
TiRIGHTeMIDDLE LEFT TO LOWER CENTREfRIGHT TO LOWER CENTREeUPPER CENTRE TO MIDDLE LEFT TO LOWER CENTR
EiRIGHT TO LOWER CENTREeMIDDLE LEFT TO LOWER CENTRE TO MIDDLE RIGHThUPPER CENTRE TO MIDDLE RIGHTeUPP
ER CENTRE TO MIDDLE LEFT AND MIDDLE RIGHT TO LOWER CENTREiRIGHT AND MIDDLE LEFT TO LOWER CENTREjTO L
OWER CENTRE TO MIDDLE LEFTiLEFT TO LOWER CENTRE TO MIDDLE RIGHTeMIDDLE LEFT TO UPPER CENTRE TO MIDDL
E RIGHT TO LOWER CENTREfRIGHT TO UPPER CENTRE TO MIDDLE LEFT TO LOWER CENTREeDIAMONDdHORIZONTAL WIT
H VERTICAL STROKEaARROWHEAD-SHAPED POINTERaINVERSE CHECK MARKaLEFT HALF RUNNING MANaRIGHT HALF RUNNI
NG MANaINVERSE DOWNWARDS ARROW WITH TIP LEFTWARDSaLEFTWARDS ARROW AND UPPER AND LOWER ONE EIGHTH BLO
CKaRIGHTWARDS ARROW AND UPPER AND LOWER ONE EIGHTH BLOCKaDOWNWARDS ARROW AND RIGHT ONE EIGHTH BLOCKa
UPWARDS ARROW AND RIGHT ONE EIGHTH BLOCKaLEFT HALF FOLDERaRIGHT HALF FOLDERaVOIDED GREEK CROSSaRIGH
T OPEN SQUARED DOTaNEGATIVE DIAGONAL CROSScMIDDLE RIGHT TO LOWER CENTREcDIAMONDaWHITE HEAVY SALTIR
E WITH ROUNDED CORNERSaLEFT THIRD WHITE RIGHT POINTING INDEXaMIDDLE THIRD WHITE RIGHT POINTING INDEX
aRIGHT THIRD WHITE RIGHT POINTING INDEXaNEGATIVE SQUARED QUESTION MARKaSTICK FIGUREbFIGURE WITH ARM
S RAISEDcLEANING LEFTdRIGHTcWITH DRESSaWHITE UP-POINTING CHEVRON=1FBF0aSEGMENTED DIGIT ZEROcONEcTWOc
THREEcFOURcFIVEcSIXcSEVENcEIGHTcNINE=E0001aLANGUAGE TAG=E0020aTAG SPACEbEXCLAMATION MARKbQUOTATION M
ARKbNUMBER SIGNbDOLLAR SIGNbPERCENT SIGNbAMPERSANDbAPOSTROPHEbLEFT PARENTHESISbRIGHT PARENTHESISbAST
ERISKbPLUS SIGNbCOMMAbHYPHEN-MINUSbFULL STOPbSOLIDUSbDIGIT ZEROcONEcTWOcTHREEcFOURcFIVEcSIXcSEVENcEI
GHTcNINEbCOLONbSEMICOLONbLESS-THAN SIGNbEQUALS SIGNbGREATER-THAN SIGNbQUESTION MARKbCOMMERCIAL ATbLA
TIN CAPITAL LETTER AeBeCeDeEeFeGeHeIeJeKeLeMeNeOePeQeReSeTeUeVeWeXeYeZbLEFT SQUARE BRACKETbREVERSE S
OLIDUSbRIGHT SQUARE BRACKETbCIRCUMFLEX ACCENTbLOW LINEbGRAVE ACCENTbLATIN SMALL LETTER AeBeCeDeEeFeG
eHeIeJeKeLeMeNeOePeQeReSeTeUeVeWeXeYeZbLEFT CURLY BRACKETbVERTICAL LINEbRIGHT CURLY BRACKETbTILDEaCA
NCEL TAG=E0100aVARIATION SELECTOR-17c18c19c20c21c22c23c24c25c26c27c28c29c30c31c32c33c34c35c36c37c38c
39c40c41c42c43c44c45c46c47c48c49c50c51c52c53c54c55c56c57c58c59c60c61c62c63c64c65c66c67c68c69c70c71c7
2c73c74c75c76c77c78c79c80c81c82c83c84c85c86c87c88c89c90c91c92c93c94c95c96c97c98c99c100c101c102c103c1
04c105c106c107c108c109c110c111c112c113c114c115c116c117c118c119c120c121c122c123c124c125c126c127c128c1
29c130c131c132c133c134c135c136c137c138c139c140c141c142c143c144c145c146c147c148c149c150c151c152c153c1
54c155c156c157c158c159c160c161c162c163c164c165c166c167c168c169c170c171c172c173c174c175c176c177c178c1
79c180c181c182c183c184c185c186c187c188c189c190c191c192c193c194c195c196c197c198c199c200c201c202c203c2
04c205c206c207c208c209c210c211c212c213c214c215c216c217c218c219c220c221c222c223c224c225c226c227c228c2
29c230c231c232c233c234c235c236c237c238c239c240c241c242c243c244c245c246c247c248c249c250c251c252c253c2
54c255c256=0aNULaSOH=1aSTART OF HEADINGcTEXT=2aSTXaEND OF TEXT=3aETXaEND OF TRANSMISSION=4aEOTaENQ=5
aENQUIRYaACK=6aACKNOWLEDGEaALERT=7aBELaBACKSPACE=8aBSaCHARACTER TABULATION=9aHORIZONTAL TABULATION=9
aHT=9aTABaEND OF LINE=AaEOL=AaLF=AaLINE FEED=AaNEW LINE=AaNLaLINE TABULATION=BaVERTICAL TABULATION=B
aVTaFF=CaFORM FEEDaCARRIAGE RETURN=DaCRaLOCKING-SHIFT ONE=EaSHIFT OUT=EaSOaLOCKING-SHIFT ZERO=FaSHIF
T IN=FaSIaDATA LINK ESCAPE=10aDLEaDC1=11aDEVICE CONTROL ONEaDC2=12aDEVICE CONTROL TWOaDC3=13aDEVIC
E CONTROL THREEaDC4=14aDEVICE CONTROL FOURaNAK=15aNEGATIVE ACKNOWLEDGEaSYN=16aSYNCHRONOUS IDLEaEND O
F TRANSMISSION BLOCK=17aETBaCAN=18aCANCELaEND OF MEDIUM=19aEOMaSUB=1AaSUBSTITUTEaESC=1BaESCAPEaFIL
E SEPARATOR=1CaFS=1CaINFORMATION SEPARATOR FOURaGROUP SEPARATOR=1DaGS=1DaINFORMATION SEPARATOR THREE
cTWO=1EaRECORD SEPARATOR=1EaRSaINFORMATION SEPARATOR ONE=1FaUNIT SEPARATOR=1FaUSaSP=7FaDEL=7FaDELETE
aPAD=80aPADDING CHARACTERaHIGH OCTET PRESET=81aHOPaBPH=82aBREAK PERMITTED HEREaNBH=83aNO BREAK HEREa
IND=84aINDEXaNEL=85aNEXT LINEaSSA=86aSTART OF SELECTED AREAaEND OF SELECTED AREA=87aESAaCHARACTER TA
BULATION SET=88aHORIZONTAL TABULATION SET=88aHTSaCHARACTER TABULATION WITH JUSTIFICATION=89aHORIZONT
AL TABULATION WITH JUSTIFICATION=89aHTJaLINE TABULATION SET=8AaVERTICAL TABULATION SET=8AaVTSaPARTIA
L LINE DOWN=8BaPARTIAL LINE FORWARD=8BaPLDaPARTIAL LINE BACKWARD=8CaPARTIAL LINE UP=8CaPLUaREVERSE I
NDEX=8DaREVERSE LINE FEED=8DaRIaSINGLE SHIFT TWO=8EaSINGLE-SHIFT-2=8EaSS2aSINGLE SHIFT THREE=8FaSING
LE-SHIFT-3=8FaSS3aDCS=90aDEVICE CONTROL STRINGaPRIVATE USE ONE=91aPRIVATE USE-1=91aPU1aPRIVATE USE T
WO=92aPRIVATE USE-2=92aPU2aSET TRANSMIT STATE=93aSTSaCANCEL CHARACTER=94aCCHaMESSAGE WAITING=95aMWaS
PA=96aSTART OF GUARDED AREA=96aSTART OF PROTECTED AREAaEND OF GUARDED AREA=97aEND OF PROTECTED AREA=
97aEPAaSOS=98aSTART OF STRINGaSGC=99aSINGLE GRAPHIC CHARACTER INTRODUCERaSCI=9AaSINGLE CHARACTER INT
RODUCERaCONTROL SEQUENCE INTRODUCER=9BaCSIaST=9CaSTRING TERMINATORaOPERATING SYSTEM COMMAND=9DaOSCaP
M=9EaPRIVACY MESSAGEaAPC=9FaAPPLICATION PROGRAM COMMANDaNBSP=ADaSHY=1A2aLATIN CAPITAL LETTER GHAbSMA
LL LETTER GHA=34FaCGJ=61CaALM=709aSYRIAC SUBLINEAR COLON SKEWED LEFT=CDEaKANNADA LETTER LLLA=E9DaLA
O LETTER FO FON=E9FaLAO LETTER FO FAY=EA3aLAO LETTER RO=EA5aLAO LETTER LO=FD0aTIBETAN MARK BKA- SHO
G GI MGO RGYAN=11ECaHANGUL JONGSEONG YESIEUNG-KIYEOKdSSANGKIYEOKcSSANGYESIEUNGcYESIEUNG-KHIEUKH=180B
aFVS1aFVS2aFVS3aMVSaFVS4=200BaZWSPaZWNJaZWJaLRMaRLM=202AaLREaRLEaPDFaLROaRLOaNNBSP=205FaMMSPaWJ=2066
aLRIaRLIaFSIaPDI=2118aWEIERSTRASS ELLIPTIC FUNCTION=2448aMICR ON US SYMBOLbDASH SYMBOL=2B7AaLEFTWARD
S TRIANGLE-HEADED ARROW WITH DOUBLE VERTICAL STROKE=2B7CaRIGHTWARDS TRIANGLE-HEADED ARROW WITH DOUBL
E VERTICAL STROKE=A015aYI SYLLABLE ITERATION MARK=AA6EaMYANMAR LETTER KHAMTI LLA=FE00aVS1aVS2aVS3aVS
4aVS5aVS6aVS7aVS8aVS9aVS10aVS11aVS12aVS13aVS14aVS15aVS16=FE18aPRESENTATION FORM FOR VERTICAL RIGHT W
HITE LENTICULAR BRACKET=FEFFaBOM=FEFFaBYTE ORDER MARK=FEFFaZWNBSP=122D4aCUNEIFORM SIGN NU11 TENUdOVE
R NU11 BUR OVER BUR=16E56aMEDEFAIDRIN CAPITAL LETTER HdNG=16E76aMEDEFAIDRIN SMALL LETTER HdNG=1B001a
HENTAIGANA LETTER E-1=1D0C5aBYZANTINE MUSICAL SYMBOL FTHORA SKLIRON CHROMA VASIS=E0100aVS17aVS18aVS1
9aVS20aVS21aVS22aVS23aVS24aVS25aVS26aVS27aVS28aVS29aVS30aVS31aVS32aVS33aVS34aVS35aVS36aVS37aVS38aVS3
9aVS40aVS41aVS42aVS43aVS44aVS45aVS46aVS47aVS48aVS49aVS50aVS51aVS52aVS53aVS54aVS55aVS56aVS57aVS58aVS5
9aVS60aVS61aVS62aVS63aVS64aVS65aVS66aVS67aVS68aVS69aVS70aVS71aVS72aVS73aVS74aVS75aVS76aVS77aVS78aVS7
9aVS80aVS81aVS82aVS83aVS84aVS85aVS86aVS87aVS88aVS89aVS90aVS91aVS92aVS93aVS94aVS95aVS96aVS97aVS98aVS9
9aVS100aVS101aVS102aVS103aVS104aVS105aVS106aVS107aVS108aVS109aVS110aVS111aVS112aVS113aVS114aVS115aVS
116aVS117aVS118aVS119aVS120aVS121aVS122aVS123aVS124aVS125aVS126aVS127aVS128aVS129aVS130aVS131aVS132a
VS133aVS134aVS135aVS136aVS137aVS138aVS139aVS140aVS141aVS142aVS143aVS144aVS145aVS146aVS147aVS148aVS14
9aVS150aVS151aVS152aVS153aVS154aVS155aVS156aVS157aVS158aVS159aVS160aVS161aVS162aVS163aVS164aVS165aVS
166aVS167aVS168aVS169aVS170aVS171aVS172aVS173aVS174aVS175aVS176aVS177aVS178aVS179aVS180aVS181aVS182a
VS183aVS184aVS185aVS186aVS187aVS188aVS189aVS190aVS191aVS192aVS193aVS194aVS195aVS196aVS197aVS198aVS19
9aVS200aVS201aVS202aVS203aVS204aVS205aVS206aVS207aVS208aVS209aVS210aVS211aVS212aVS213aVS214aVS215aVS
216aVS217aVS218aVS219aVS220aVS221aVS222aVS223aVS224aVS225aVS226aVS227aVS228aVS229aVS230aVS231aVS232a
VS233aVS234aVS235aVS236aVS237aVS238aVS239aVS240aVS241aVS242aVS243aVS244aVS245aVS246aVS247aVS248aVS24
9aVS250aVS251aVS252aVS253aVS254aVS255aVS256"

/-- The entries of the table: a small letter or an equals sign, and what follows it. -/
def entries : List (Char × Text) :=
  let read (character : Char) (read : Text × List (Char × Text)) : Text × List (Char × Text) :=
    if character = '=' ∨ character.isLower then ([], (character, read.1) :: read.2)
    else if character = '\n' then read
    else (CodePoint.ofChar character :: read.1, read.2)
  (table.toList.foldr read ([], [])).2

/-- The words of a name, with the space or hyphen that each of them ends with. -/
def words : Text → List Text
  | [] => []
  | point :: rest =>
      if point = ' ' ∨ point = '-' then [point] :: words rest
      else match words rest with
        | [] => [[point]]
        | word :: others => (point :: word) :: others

/-- The value of a digit or capital letter in a hexadecimal number. -/
def hexadecimalDigit? (point : CodePoint) : Option Nat :=
  if point.isAsciiDigit then some (point.val - 48)
  else if point.isBetween 'A' 'F' then some (point.val - 55)
  else none

def hexadecimalNumber? (digits : Text) : Option Nat :=
  digits.foldlM (fun number digit => (hexadecimalDigit? digit).map (number * 16 + ·)) 0

/-- The number of the code point with a name among entries that follow a name. -/
def numberIn? (name : Text) (number : Nat) (before : Text) : List (Char × Text) → Option Nat
  | [] => none
  | (mark, rest) :: entries =>
      if mark = '=' then
        numberIn? name ((hexadecimalNumber? rest).getD 0) [] entries
      else
        let current := ((words before).take (mark.toNat - 'a'.toNat)).flatten ++ rest
        if current = name then some number else numberIn? name (number + 1) current entries

def isWithin (ranges : List (Nat × Nat)) (number : Nat) : Bool :=
  ranges.any fun (first, last) => first ≤ number && number ≤ last

/-- The ideographs whose names are a label and their numbers. -/
def numberedNames : List (String × List (Nat × Nat)) := [
    ("CJK COMPATIBILITY IDEOGRAPH-", [(0xF900, 0xFA6D), (0xFA70, 0xFAD9), (0x2F800, 0x2FA1D)]),
    ("KHITAN SMALL SCRIPT CHARACTER-", [(0x18B00, 0x18CD5)]),
    ("NUSHU CHARACTER-", [(0x1B170, 0x1B2FB)])]

/-- The number that a name ends with, if that is the name of a numbered ideograph. -/
def numbered? (name : Text) : Option Nat :=
  numberedNames.findSome? fun (label, ranges) => do
    let digits ← Text.dropPrefix? label name
    let number ← hexadecimalNumber? digits
    if isWithin ranges number && digits.head? ≠ some '0' then some number else none

def unifiedRanges : List (Nat × Nat) := [
    (0x3400, 0x4DBF), (0x4E00, 0x9FFF), (0x20000, 0x2A6DF), (0x2A700, 0x2B738), (0x2B740, 0x2B81D),
    (0x2B820, 0x2CEA1), (0x2CEB0, 0x2EBE0), (0x30000, 0x3134A)]

/-- The number of a unified ideograph, which is written with four or five digits. -/
def unified? (name : Text) : Option Nat := do
  let digits ← Text.dropPrefix? "CJK UNIFIED IDEOGRAPH-" name
  let number ← hexadecimalNumber? digits
  let isWritten := digits.length = 4 || digits.length = 5
  if isWithin unifiedRanges number && isWritten then some number else none

/-- The letters that Korean syllables begin with. -/
def firstLetters : List String :=
  ["G", "GG", "N", "D", "DD", "R", "M", "B", "BB", "S", "SS", "", "J", "JJ", "C", "K", "T", "P",
    "H"]

def vowelLetters : List String :=
  ["A", "AE", "YA", "YAE", "EO", "E", "YEO", "YE", "O", "WA", "WAE", "OE", "YO", "U", "WEO", "WE",
    "WI", "YU", "EU", "YI", "I"]

/-- The letters that Korean syllables end with, the first of which is none. -/
def lastLetters : List String :=
  ["", "G", "GG", "GS", "N", "NJ", "NH", "D", "L", "LG", "LM", "LB", "LS", "LT", "LP", "LH", "M",
    "B", "BS", "S", "SS", "NG", "J", "C", "K", "T", "P", "H"]

/-- The longest of some letters that a text begins with, by its place among them. -/
def longestLetter? (letters : List String) (text : Text) : Option (Nat × Text) :=
  let found := letters.zipIdx.filterMap fun (letter, place) =>
    (Text.dropPrefix? letter text).map fun rest => (place, rest)
  found.foldl (fun best? candidate => match best? with
    | none => some candidate
    | some best => if candidate.2.length < best.2.length then some candidate else some best) none

/-- The number of a Korean syllable. -/
def syllable? (name : Text) : Option Nat := do
  let letters ← Text.dropPrefix? "HANGUL SYLLABLE " name
  let (first, afterFirst) ← longestLetter? firstLetters letters
  let (vowel, afterVowel) ← longestLetter? vowelLetters afterFirst
  let (last, rest) ← longestLetter? lastLetters afterVowel
  let perFirst := vowelLetters.length * lastLetters.length
  if rest.isEmpty then some (0xAC00 + first * perFirst + vowel * lastLetters.length + last)
  else none

/-- The capital of an ASCII letter; every other code point stays. -/
def capital (point : CodePoint) : CodePoint :=
  if small : 97 ≤ point.val ∧ point.val ≤ 122 then ⟨point.val - 32, by omega⟩ else point

/-- The code point with a name or alias. -/
def find? (name : Text) : Option CodePoint :=
  let capitals := name.map capital
  let number? := (syllable? name).or ((unified? name).or
    ((numbered? capitals).or (numberIn? capitals 0 [] entries)))
  number?.bind CodePoint.ofNat?

end ComponentInliner.CodePointName
