import Inlay.Text.CodePage

/-!
# Code pages of ISO 8859

The parts of the standard for single bytes. They agree with Unicode up to the first byte of each
table.
-/

namespace Inlay.Text.CodePage.Iso

/-- Latin for central Europe. -/
def iso2 : CodePage where
  first := 0xA1
  chars := "Ą˘Ł¤ĽŚ§¨ŠŞŤŹ\xadŽŻ°ą˛ł´ľś\u02c7¸šşťź˝žżŔÁÂĂÄĹĆÇČÉĘËĚÍÎĎĐŃŇÓÔŐÖ×ŘŮÚŰÜÝŢßŕáâăäĺćçčéę" ++
    "ëěíîďđńňóôőö÷řůúűüýţ˙"

/-- Latin for Esperanto and Maltese. -/
def iso3 : CodePage where
  first := 0xA1
  chars := "Ħ˘£¤�Ĥ§¨İŞĞĴ\xad�Ż°ħ²³´µĥ·¸ışğĵ½�żÀÁÂ�ÄĊĈÇÈÉÊËÌÍÎÏ�ÑÒÓÔĠÖ×ĜÙÚÛÜŬŜßàáâ�äċĉçèéêëìíîï" ++
    "�ñòóôġö÷ĝùúûüŭŝ˙"

/-- Latin for the Baltic, as it first was. -/
def iso4 : CodePage where
  first := 0xA1
  chars := "ĄĸŖ¤ĨĻ§¨ŠĒĢŦ\xadŽ¯°ą˛ŗ´ĩļ\u02c7¸šēģŧŊžŋĀÁÂÃÄÅÆĮČÉĘËĖÍÎĪĐŅŌĶÔÕÖ×ØŲÚÛÜŨŪßāáâãäåæįčéę" ++
    "ëėíîīđņōķôõö÷øųúûüũū˙"

/-- Cyrillic. -/
def iso5 : CodePage where
  first := 0xA1
  chars := "ЁЂЃЄЅІЇЈЉЊЋЌ\xadЎЏАБВГДЕЖЗИЙКЛМНОПРСТУФХЦЧШЩЪЫЬЭЮЯабвгдежзийклмнопрстуфхцчшщъыьэюя" ++
    "№ёђѓєѕіїјљњћќ§ўџ"

/-- Arabic. -/
def iso6 : CodePage where
  first := 0xA1
  chars := "���¤�������،\xad�������������\u061b���\u061f�\u0621\u0622\u0623\u0624\u0625\u0626" ++
    "\u0627\u0628\u0629\u062a\u062b\u062c\u062d\u062e\u062f\u0630\u0631\u0632\u0633\u0634\u0635" ++
    "\u0636\u0637\u0638\u0639\u063a�����\u0640\u0641\u0642\u0643\u0644\u0645\u0646\u0647\u0648" ++
    "\u0649\u064a\u064b\u064c\u064d\u064e\u064f\u0650\u0651\u0652�������������"

/-- Greek. -/
def iso7 : CodePage where
  first := 0xA1
  chars := "‘’£€₯¦§¨©\u037a«¬\xad�―°±²³΄΅Ά·ΈΉΊ»Ό½ΎΏΐΑΒΓΔΕΖΗΘΙΚΛΜΝΞΟΠΡ�ΣΤΥΦΧΨΩΪΫάέήίΰαβγδεζηθικ" ++
    "λμνξοπρςστυφχψωϊϋόύώ�"

/-- Hebrew. -/
def iso8 : CodePage where
  first := 0xA1
  chars := "�¢£¤¥¦§¨©×«¬\xad®¯°±²³´µ¶·¸¹÷»¼½¾��������������������������������‗\u05d0\u05d1" ++
    "\u05d2\u05d3\u05d4\u05d5\u05d6\u05d7\u05d8\u05d9\u05da\u05db\u05dc\u05dd\u05de\u05df\u05e0" ++
    "\u05e1\u05e2\u05e3\u05e4\u05e5\u05e6\u05e7\u05e8\u05e9\u05ea��\u200e\u200f�"

/-- Latin with Turkish in the place of Icelandic. -/
def iso9 : CodePage where
  first := 0xD0
  chars := "ĞÑÒÓÔÕÖ×ØÙÚÛÜİŞßàáâãäåæçèéêëìíîïğñòóôõö÷øùúûüışÿ"

/-- Latin for the Nordic languages. -/
def iso10 : CodePage where
  first := 0xA1
  chars := "ĄĒĢĪĨĶ§ĻĐŠŦŽ\xadŪŊ°ąēģīĩķ·ļđšŧž―ūŋĀÁÂÃÄÅÆĮČÉĘËĖÍÎÏÐŅŌÓÔÕÖŨØŲÚÛÜÝÞßāáâãäåæįčéęëėíîï" ++
    "ðņōóôõöũøųúûüýþĸ"

/-- Thai. -/
def iso11 : CodePage where
  first := 0xA1
  chars := "กขฃคฅฆงจฉชซฌญฎฏฐฑฒณดตถทธนบปผฝพฟภมยรฤลฦวศษสหฬอฮฯะ\u0e31าำ\u0e34\u0e35\u0e36\u0e37" ++
    "\u0e38\u0e39\u0e3a����฿เแโใไๅ\u0e46\u0e47\u0e48\u0e49\u0e4a\u0e4b\u0e4c\u0e4d\u0e4e๏๐๑๒๓๔๕" ++
    "๖๗๘๙๚๛����"

/-- Thai, without a no-break space. -/
def tis620 : CodePage where
  first := 0xA0
  chars := "�กขฃคฅฆงจฉชซฌญฎฏฐฑฒณดตถทธนบปผฝพฟภมยรฤลฦวศษสหฬอฮฯะ\u0e31าำ\u0e34\u0e35\u0e36\u0e37" ++
    "\u0e38\u0e39\u0e3a����฿เแโใไๅ\u0e46\u0e47\u0e48\u0e49\u0e4a\u0e4b\u0e4c\u0e4d\u0e4e๏๐๑๒๓๔๕" ++
    "๖๗๘๙๚๛����"

/-- Latin for the Baltic. -/
def iso13 : CodePage where
  first := 0xA1
  chars := "”¢£¤„¦§Ø©Ŗ«¬\xad®Æ°±²³“µ¶·ø¹ŗ»¼½¾æĄĮĀĆÄÅĘĒČÉŹĖĢĶĪĻŠŃŅÓŌÕÖ×ŲŁŚŪÜŻŽßąįāćäåęēčéźėģķīļ" ++
    "šńņóōõö÷ųłśūüżž’"

/-- Latin for the Celtic languages. -/
def iso14 : CodePage where
  first := 0xA1
  chars := "Ḃḃ£ĊċḊ§Ẁ©ẂḋỲ\xad®ŸḞḟĠġṀṁ¶ṖẁṗẃṠỳẄẅṡÀÁÂÃÄÅÆÇÈÉÊËÌÍÎÏŴÑÒÓÔÕÖṪØÙÚÛÜÝŶßàáâãäåæçèéêëìíîï" ++
    "ŵñòóôõöṫøùúûüýŷÿ"

/-- Latin with the sign of the euro. -/
def iso15 : CodePage where
  first := 0xA4
  chars := "€¥Š§š©ª«¬\xad®¯°±²³Žµ¶·ž¹º»ŒœŸ¿ÀÁÂÃÄÅÆÇÈÉÊËÌÍÎÏÐÑÒÓÔÕÖ×ØÙÚÛÜÝÞßàáâãäåæçèéêëìíîïðñò" ++
    "óôõö÷øùúûüýþÿ"

/-- Latin for south-eastern Europe. -/
def iso16 : CodePage where
  first := 0xA1
  chars := "ĄąŁ€„Š§š©Ș«Ź\xadźŻ°±ČłŽ”¶·žčș»ŒœŸżÀÁÂĂÄĆÆÇÈÉÊËÌÍÎÏĐŃÒÓÔŐÖŚŰÙÚÛÜĘȚßàáâăäćæçèéêëìíîï" ++
    "đńòóôőöśűùúûüęțÿ"

end Inlay.Text.CodePage.Iso
