import FragmentFeed.Unicode.StepTable

/-!
# Characters that cannot be shown

The code points that a reader would not see, or not see apart from the character before them:
controls, format characters, separators, surrogates, private and unassigned code points, and those
with the property Grapheme_Extend.
-/

namespace FragmentFeed.Unicode

/-- Steps of the property beyond the visible part of ASCII, `1` where it holds. -/
def hiddenSteps : StepTable := .ofLines
  ["7F:1 A1:0 AD:1 AE:0 300:1 370:0 378:1 37A:0 380:1 384:0 38B:1 38C:0 38D:1 38E:0 3A2:1 3A3:0",
   "483:1 48A:0 530:1 531:0 557:1 559:0 58B:1 58D:0 590:1 5BE:0 5BF:1 5C0:0 5C1:1 5C3:0 5C4:1",
   "5C6:0 5C7:1 5D0:0 5EB:1 5EF:0 5F5:1 606:0 610:1 61B:0 61C:1 61D:0 64B:1 660:0 670:1 671:0",
   "6D6:1 6DE:0 6DF:1 6E5:0 6E7:1 6E9:0 6EA:1 6EE:0 70E:1 710:0 711:1 712:0 730:1 74D:0 7A6:1",
   "7B1:0 7B2:1 7C0:0 7EB:1 7F4:0 7FB:1 7FE:0 816:1 81A:0 81B:1 824:0 825:1 828:0 829:1 830:0",
   "83F:1 840:0 859:1 85E:0 85F:1 860:0 86B:1 870:0 890:1 897:0 898:1 8A0:0 8CA:1 903:0 93A:1",
   "93B:0 93C:1 93D:0 941:1 949:0 94D:1 94E:0 951:1 958:0 962:1 964:0 981:1 982:0 984:1 985:0",
   "98D:1 98F:0 991:1 993:0 9A9:1 9AA:0 9B1:1 9B2:0 9B3:1 9B6:0 9BA:1 9BD:0 9BE:1 9BF:0 9C1:1",
   "9C7:0 9C9:1 9CB:0 9CD:1 9CE:0 9CF:1 9DC:0 9DE:1 9DF:0 9E2:1 9E6:0 9FE:1 A03:0 A04:1 A05:0",
   "A0B:1 A0F:0 A11:1 A13:0 A29:1 A2A:0 A31:1 A32:0 A34:1 A35:0 A37:1 A38:0 A3A:1 A3E:0 A41:1",
   "A59:0 A5D:1 A5E:0 A5F:1 A66:0 A70:1 A72:0 A75:1 A76:0 A77:1 A83:0 A84:1 A85:0 A8E:1 A8F:0",
   "A92:1 A93:0 AA9:1 AAA:0 AB1:1 AB2:0 AB4:1 AB5:0 ABA:1 ABD:0 AC1:1 AC9:0 ACA:1 ACB:0 ACD:1",
   "AD0:0 AD1:1 AE0:0 AE2:1 AE6:0 AF2:1 AF9:0 AFA:1 B02:0 B04:1 B05:0 B0D:1 B0F:0 B11:1 B13:0",
   "B29:1 B2A:0 B31:1 B32:0 B34:1 B35:0 B3A:1 B3D:0 B3E:1 B40:0 B41:1 B47:0 B49:1 B4B:0 B4D:1",
   "B5C:0 B5E:1 B5F:0 B62:1 B66:0 B78:1 B83:0 B84:1 B85:0 B8B:1 B8E:0 B91:1 B92:0 B96:1 B99:0",
   "B9B:1 B9C:0 B9D:1 B9E:0 BA0:1 BA3:0 BA5:1 BA8:0 BAB:1 BAE:0 BBA:1 BBF:0 BC0:1 BC1:0 BC3:1",
   "BC6:0 BC9:1 BCA:0 BCD:1 BD0:0 BD1:1 BE6:0 BFB:1 C01:0 C04:1 C05:0 C0D:1 C0E:0 C11:1 C12:0",
   "C29:1 C2A:0 C3A:1 C3D:0 C3E:1 C41:0 C45:1 C58:0 C5B:1 C5C:0 C5E:1 C60:0 C62:1 C66:0 C70:1",
   "C77:0 C81:1 C82:0 C8D:1 C8E:0 C91:1 C92:0 CA9:1 CAA:0 CB4:1 CB5:0 CBA:1 CBD:0 CBF:1 CC0:0",
   "CC2:1 CC3:0 CC5:1 CC7:0 CC9:1 CCA:0 CCC:1 CDC:0 CDF:1 CE0:0 CE2:1 CE6:0 CF0:1 CF1:0 CF4:1",
   "D02:0 D0D:1 D0E:0 D11:1 D12:0 D3B:1 D3D:0 D3E:1 D3F:0 D41:1 D46:0 D49:1 D4A:0 D4D:1 D4E:0",
   "D50:1 D54:0 D57:1 D58:0 D62:1 D66:0 D80:1 D82:0 D84:1 D85:0 D97:1 D9A:0 DB2:1 DB3:0 DBC:1",
   "DBD:0 DBE:1 DC0:0 DC7:1 DD0:0 DD2:1 DD8:0 DDF:1 DE6:0 DF0:1 DF2:0 DF5:1 E01:0 E31:1 E32:0",
   "E34:1 E3F:0 E47:1 E4F:0 E5C:1 E81:0 E83:1 E84:0 E85:1 E86:0 E8B:1 E8C:0 EA4:1 EA5:0 EA6:1",
   "EA7:0 EB1:1 EB2:0 EB4:1 EBD:0 EBE:1 EC0:0 EC5:1 EC6:0 EC7:1 ED0:0 EDA:1 EDC:0 EE0:1 F00:0",
   "F18:1 F1A:0 F35:1 F36:0 F37:1 F38:0 F39:1 F3A:0 F48:1 F49:0 F6D:1 F7F:0 F80:1 F85:0 F86:1",
   "F88:0 F8D:1 FBE:0 FC6:1 FC7:0 FCD:1 FCE:0 FDB:1 1000:0 102D:1 1031:0 1032:1 1038:0 1039:1",
   "103B:0 103D:1 103F:0 1058:1 105A:0 105E:1 1061:0 1071:1 1075:0 1082:1 1083:0 1085:1 1087:0",
   "108D:1 108E:0 109D:1 109E:0 10C6:1 10C7:0 10C8:1 10CD:0 10CE:1 10D0:0 1249:1 124A:0 124E:1",
   "1250:0 1257:1 1258:0 1259:1 125A:0 125E:1 1260:0 1289:1 128A:0 128E:1 1290:0 12B1:1 12B2:0",
   "12B6:1 12B8:0 12BF:1 12C0:0 12C1:1 12C2:0 12C6:1 12C8:0 12D7:1 12D8:0 1311:1 1312:0 1316:1",
   "1318:0 135B:1 1360:0 137D:1 1380:0 139A:1 13A0:0 13F6:1 13F8:0 13FE:1 1400:0 1680:1 1681:0",
   "169D:1 16A0:0 16F9:1 1700:0 1712:1 1715:0 1716:1 171F:0 1732:1 1734:0 1737:1 1740:0 1752:1",
   "1760:0 176D:1 176E:0 1771:1 1780:0 17B4:1 17B6:0 17B7:1 17BE:0 17C6:1 17C7:0 17C9:1 17D4:0",
   "17DD:1 17E0:0 17EA:1 17F0:0 17FA:1 1800:0 180B:1 1810:0 181A:1 1820:0 1879:1 1880:0 1885:1",
   "1887:0 18A9:1 18AA:0 18AB:1 18B0:0 18F6:1 1900:0 191F:1 1923:0 1927:1 1929:0 192C:1 1930:0",
   "1932:1 1933:0 1939:1 1940:0 1941:1 1944:0 196E:1 1970:0 1975:1 1980:0 19AC:1 19B0:0 19CA:1",
   "19D0:0 19DB:1 19DE:0 1A17:1 1A19:0 1A1B:1 1A1E:0 1A56:1 1A57:0 1A58:1 1A61:0 1A62:1 1A63:0",
   "1A65:1 1A6D:0 1A73:1 1A80:0 1A8A:1 1A90:0 1A9A:1 1AA0:0 1AAE:1 1ACF:0 1ADE:1 1AE0:0 1AEC:1",
   "1B04:0 1B34:1 1B3B:0 1B3C:1 1B3D:0 1B42:1 1B43:0 1B4D:1 1B4E:0 1B6B:1 1B74:0 1B80:1 1B82:0",
   "1BA2:1 1BA6:0 1BA8:1 1BAA:0 1BAB:1 1BAE:0 1BE6:1 1BE7:0 1BE8:1 1BEA:0 1BED:1 1BEE:0 1BEF:1",
   "1BF2:0 1BF4:1 1BFC:0 1C2C:1 1C34:0 1C36:1 1C3B:0 1C4A:1 1C4D:0 1C8B:1 1C90:0 1CBB:1 1CBD:0",
   "1CC8:1 1CD3:0 1CD4:1 1CE1:0 1CE2:1 1CE9:0 1CED:1 1CEE:0 1CF4:1 1CF5:0 1CF8:1 1CFA:0 1CFB:1",
   "1D00:0 1DC0:1 1E00:0 1F16:1 1F18:0 1F1E:1 1F20:0 1F46:1 1F48:0 1F4E:1 1F50:0 1F58:1 1F59:0",
   "1F5A:1 1F5B:0 1F5C:1 1F5D:0 1F5E:1 1F5F:0 1F7E:1 1F80:0 1FB5:1 1FB6:0 1FC5:1 1FC6:0 1FD4:1",
   "1FD6:0 1FDC:1 1FDD:0 1FF0:1 1FF2:0 1FF5:1 1FF6:0 1FFF:1 2010:0 2028:1 2030:0 205F:1 2070:0",
   "2072:1 2074:0 208F:1 2090:0 209D:1 20A0:0 20C2:1 2100:0 218C:1 2190:0 242A:1 2440:0 244B:1",
   "2460:0 2B74:1 2B76:0 2CEF:1 2CF2:0 2CF4:1 2CF9:0 2D26:1 2D27:0 2D28:1 2D2D:0 2D2E:1 2D30:0",
   "2D68:1 2D6F:0 2D71:1 2D80:0 2D97:1 2DA0:0 2DA7:1 2DA8:0 2DAF:1 2DB0:0 2DB7:1 2DB8:0 2DBF:1",
   "2DC0:0 2DC7:1 2DC8:0 2DCF:1 2DD0:0 2DD7:1 2DD8:0 2DDF:1 2E00:0 2E5E:1 2E80:0 2E9A:1 2E9B:0",
   "2EF4:1 2F00:0 2FD6:1 2FF0:0 2FFC:1 3001:0 302A:1 3030:0 3040:1 3041:0 3097:1 309B:0 3100:1",
   "3105:0 3130:1 3131:0 318F:1 3190:0 31E6:1 31F0:0 321F:1 3220:0 A48D:1 A490:0 A4C7:1 A4D0:0",
   "A62C:1 A640:0 A66F:1 A673:0 A674:1 A67E:0 A69E:1 A6A0:0 A6F0:1 A6F2:0 A6F8:1 A700:0 A7DD:1",
   "A7F1:0 A802:1 A803:0 A806:1 A807:0 A80B:1 A80C:0 A825:1 A827:0 A82C:1 A830:0 A83A:1 A840:0",
   "A878:1 A880:0 A8C4:1 A8CE:0 A8DA:1 A8F2:0 A8FF:1 A900:0 A926:1 A92E:0 A947:1 A952:0 A954:1",
   "A95F:0 A97D:1 A983:0 A9B3:1 A9B4:0 A9B6:1 A9BA:0 A9BC:1 A9BE:0 A9CE:1 A9CF:0 A9DA:1 A9DE:0",
   "A9E5:1 A9E6:0 A9FF:1 AA00:0 AA29:1 AA2F:0 AA31:1 AA33:0 AA35:1 AA40:0 AA43:1 AA44:0 AA4C:1",
   "AA4D:0 AA4E:1 AA50:0 AA5A:1 AA5C:0 AA7C:1 AA7D:0 AAB0:1 AAB1:0 AAB2:1 AAB5:0 AAB7:1 AAB9:0",
   "AABE:1 AAC0:0 AAC1:1 AAC2:0 AAC3:1 AADB:0 AAEC:1 AAEE:0 AAF6:1 AB01:0 AB07:1 AB09:0 AB0F:1",
   "AB11:0 AB17:1 AB20:0 AB27:1 AB28:0 AB2F:1 AB30:0 AB6C:1 AB70:0 ABE5:1 ABE6:0 ABE8:1 ABE9:0",
   "ABED:1 ABF0:0 ABFA:1 AC00:0 D7A4:1 D7B0:0 D7C7:1 D7CB:0 D7FC:1 F900:0 FA6E:1 FA70:0 FADA:1",
   "FB00:0 FB07:1 FB13:0 FB18:1 FB1D:0 FB1E:1 FB1F:0 FB37:1 FB38:0 FB3D:1 FB3E:0 FB3F:1 FB40:0",
   "FB42:1 FB43:0 FB45:1 FB46:0 FDD0:1 FDF0:0 FE00:1 FE10:0 FE1A:1 FE30:0 FE53:1 FE54:0 FE67:1",
   "FE68:0 FE6C:1 FE70:0 FE75:1 FE76:0 FEFD:1 FF01:0 FF9E:1 FFA0:0 FFBF:1 FFC2:0 FFC8:1 FFCA:0",
   "FFD0:1 FFD2:0 FFD8:1 FFDA:0 FFDD:1 FFE0:0 FFE7:1 FFE8:0 FFEF:1 FFFC:0 FFFE:1 10000:0 1000C:1",
   "1000D:0 10027:1 10028:0 1003B:1 1003C:0 1003E:1 1003F:0 1004E:1 10050:0 1005E:1 10080:0",
   "100FB:1 10100:0 10103:1 10107:0 10134:1 10137:0 1018F:1 10190:0 1019D:1 101A0:0 101A1:1",
   "101D0:0 101FD:1 10280:0 1029D:1 102A0:0 102D1:1 102E1:0 102FC:1 10300:0 10324:1 1032D:0",
   "1034B:1 10350:0 10376:1 10380:0 1039E:1 1039F:0 103C4:1 103C8:0 103D6:1 10400:0 1049E:1",
   "104A0:0 104AA:1 104B0:0 104D4:1 104D8:0 104FC:1 10500:0 10528:1 10530:0 10564:1 1056F:0",
   "1057B:1 1057C:0 1058B:1 1058C:0 10593:1 10594:0 10596:1 10597:0 105A2:1 105A3:0 105B2:1",
   "105B3:0 105BA:1 105BB:0 105BD:1 105C0:0 105F4:1 10600:0 10737:1 10740:0 10756:1 10760:0",
   "10768:1 10780:0 10786:1 10787:0 107B1:1 107B2:0 107BB:1 10800:0 10806:1 10808:0 10809:1",
   "1080A:0 10836:1 10837:0 10839:1 1083C:0 1083D:1 1083F:0 10856:1 10857:0 1089F:1 108A7:0",
   "108B0:1 108E0:0 108F3:1 108F4:0 108F6:1 108FB:0 1091C:1 1091F:0 1093A:1 1093F:0 1095A:1",
   "10980:0 109B8:1 109BC:0 109D0:1 109D2:0 10A01:1 10A10:0 10A14:1 10A15:0 10A18:1 10A19:0",
   "10A36:1 10A40:0 10A49:1 10A50:0 10A59:1 10A60:0 10AA0:1 10AC0:0 10AE5:1 10AEB:0 10AF7:1",
   "10B00:0 10B36:1 10B39:0 10B56:1 10B58:0 10B73:1 10B78:0 10B92:1 10B99:0 10B9D:1 10BA9:0",
   "10BB0:1 10C00:0 10C49:1 10C80:0 10CB3:1 10CC0:0 10CF3:1 10CFA:0 10D24:1 10D30:0 10D3A:1",
   "10D40:0 10D66:1 10D69:0 10D86:1 10D8E:0 10D90:1 10E60:0 10E7F:1 10E80:0 10EAA:1 10EAD:0",
   "10EAE:1 10EB0:0 10EB2:1 10EC2:0 10EC8:1 10ED0:0 10ED9:1 10EFA:0 10EFD:1 10F00:0 10F28:1",
   "10F30:0 10F46:1 10F51:0 10F5A:1 10F70:0 10F82:1 10F86:0 10F8A:1 10FB0:0 10FCC:1 10FE0:0",
   "10FF7:1 11000:0 11001:1 11002:0 11038:1 11047:0 1104E:1 11052:0 11070:1 11071:0 11073:1",
   "11075:0 11076:1 11082:0 110B3:1 110B7:0 110B9:1 110BB:0 110BD:1 110BE:0 110C2:1 110D0:0",
   "110E9:1 110F0:0 110FA:1 11103:0 11127:1 1112C:0 1112D:1 11136:0 11148:1 11150:0 11173:1",
   "11174:0 11177:1 11182:0 111B6:1 111BF:0 111C9:1 111CD:0 111CF:1 111D0:0 111E0:1 111E1:0",
   "111F5:1 11200:0 11212:1 11213:0 1122F:1 11232:0 11234:1 11235:0 11236:1 11238:0 1123E:1",
   "1123F:0 11241:1 11280:0 11287:1 11288:0 11289:1 1128A:0 1128E:1 1128F:0 1129E:1 1129F:0",
   "112AA:1 112B0:0 112DF:1 112E0:0 112E3:1 112F0:0 112FA:1 11302:0 11304:1 11305:0 1130D:1",
   "1130F:0 11311:1 11313:0 11329:1 1132A:0 11331:1 11332:0 11334:1 11335:0 1133A:1 1133D:0",
   "1133E:1 1133F:0 11340:1 11341:0 11345:1 11347:0 11349:1 1134B:0 1134E:1 11350:0 11351:1",
   "1135D:0 11364:1 11380:0 1138A:1 1138B:0 1138C:1 1138E:0 1138F:1 11390:0 113B6:1 113B7:0",
   "113C1:1 113C2:0 113C3:1 113C5:0 113C6:1 113C7:0 113CB:1 113CC:0 113D6:1 113D7:0 113D9:1",
   "113E1:0 113E3:1 11400:0 11438:1 11440:0 11442:1 11445:0 11446:1 11447:0 1145C:1 1145D:0",
   "1145E:1 1145F:0 11462:1 11480:0 114B0:1 114B1:0 114B3:1 114B9:0 114BA:1 114BB:0 114BD:1",
   "114BE:0 114BF:1 114C1:0 114C2:1 114C4:0 114C8:1 114D0:0 114DA:1 11580:0 115AF:1 115B0:0",
   "115B2:1 115B8:0 115BC:1 115BE:0 115BF:1 115C1:0 115DC:1 11600:0 11633:1 1163B:0 1163D:1",
   "1163E:0 1163F:1 11641:0 11645:1 11650:0 1165A:1 11660:0 1166D:1 11680:0 116AB:1 116AC:0",
   "116AD:1 116AE:0 116B0:1 116B6:0 116B7:1 116B8:0 116BA:1 116C0:0 116CA:1 116D0:0 116E4:1",
   "11700:0 1171B:1 11720:0 11722:1 11726:0 11727:1 11730:0 11747:1 11800:0 1182F:1 11838:0",
   "11839:1 1183B:0 1183C:1 118A0:0 118F3:1 118FF:0 11907:1 11909:0 1190A:1 1190C:0 11914:1",
   "11915:0 11917:1 11918:0 11930:1 11931:0 11936:1 11937:0 11939:1 1193D:0 1193E:1 1193F:0",
   "11943:1 11944:0 11947:1 11950:0 1195A:1 119A0:0 119A8:1 119AA:0 119D4:1 119DC:0 119E0:1",
   "119E1:0 119E5:1 11A00:0 11A01:1 11A0B:0 11A33:1 11A39:0 11A3B:1 11A3F:0 11A47:1 11A50:0",
   "11A51:1 11A57:0 11A59:1 11A5C:0 11A8A:1 11A97:0 11A98:1 11A9A:0 11AA3:1 11AB0:0 11AF9:1",
   "11B00:0 11B0A:1 11B60:0 11B68:1 11BC0:0 11BE2:1 11BF0:0 11BFA:1 11C00:0 11C09:1 11C0A:0",
   "11C30:1 11C3E:0 11C3F:1 11C40:0 11C46:1 11C50:0 11C6D:1 11C70:0 11C90:1 11CA9:0 11CAA:1",
   "11CB1:0 11CB2:1 11CB4:0 11CB5:1 11D00:0 11D07:1 11D08:0 11D0A:1 11D0B:0 11D31:1 11D46:0",
   "11D47:1 11D50:0 11D5A:1 11D60:0 11D66:1 11D67:0 11D69:1 11D6A:0 11D8F:1 11D93:0 11D95:1",
   "11D96:0 11D97:1 11D98:0 11D99:1 11DA0:0 11DAA:1 11DB0:0 11DDC:1 11DE0:0 11DEA:1 11EE0:0",
   "11EF3:1 11EF5:0 11EF9:1 11F02:0 11F11:1 11F12:0 11F36:1 11F3E:0 11F40:1 11F41:0 11F42:1",
   "11F43:0 11F5B:1 11FB0:0 11FB1:1 11FC0:0 11FF2:1 11FFF:0 1239A:1 12400:0 1246F:1 12470:0",
   "12475:1 12480:0 12544:1 12F90:0 12FF3:1 13000:0 13430:1 13441:0 13447:1 13460:0 143FB:1",
   "14400:0 14647:1 16100:0 1613A:1 16800:0 16A39:1 16A40:0 16A5F:1 16A60:0 16A6A:1 16A6E:0",
   "16ABF:1 16AC0:0 16ACA:1 16AD0:0 16AEE:1 16AF5:0 16AF6:1 16B00:0 16B30:1 16B37:0 16B46:1",
   "16B50:0 16B5A:1 16B5B:0 16B62:1 16B63:0 16B78:1 16B7D:0 16B90:1 16D40:0 16D7A:1 16E40:0",
   "16E9B:1 16EA0:0 16EB9:1 16EBB:0 16ED4:1 16F00:0 16F4B:1 16F50:0 16F88:1 16F93:0 16FA0:1",
   "16FE0:0 16FE4:1 16FF0:0 16FF7:1 17000:0 18CD6:1 18CFF:0 18D1F:1 18D80:0 18DF3:1 1AFF0:0",
   "1AFF4:1 1AFF5:0 1AFFC:1 1AFFD:0 1AFFF:1 1B000:0 1B123:1 1B132:0 1B133:1 1B150:0 1B153:1",
   "1B155:0 1B156:1 1B164:0 1B168:1 1B170:0 1B2FC:1 1BC00:0 1BC6B:1 1BC70:0 1BC7D:1 1BC80:0",
   "1BC89:1 1BC90:0 1BC9A:1 1BC9C:0 1BC9D:1 1BC9F:0 1BCA0:1 1CC00:0 1CCFD:1 1CD00:0 1CEB4:1",
   "1CEBA:0 1CED1:1 1CEE0:0 1CEF1:1 1CF50:0 1CFC4:1 1D000:0 1D0F6:1 1D100:0 1D127:1 1D129:0",
   "1D165:1 1D166:0 1D167:1 1D16A:0 1D16E:1 1D183:0 1D185:1 1D18C:0 1D1AA:1 1D1AE:0 1D1EB:1",
   "1D200:0 1D242:1 1D245:0 1D246:1 1D2C0:0 1D2D4:1 1D2E0:0 1D2F4:1 1D300:0 1D357:1 1D360:0",
   "1D379:1 1D400:0 1D455:1 1D456:0 1D49D:1 1D49E:0 1D4A0:1 1D4A2:0 1D4A3:1 1D4A5:0 1D4A7:1",
   "1D4A9:0 1D4AD:1 1D4AE:0 1D4BA:1 1D4BB:0 1D4BC:1 1D4BD:0 1D4C4:1 1D4C5:0 1D506:1 1D507:0",
   "1D50B:1 1D50D:0 1D515:1 1D516:0 1D51D:1 1D51E:0 1D53A:1 1D53B:0 1D53F:1 1D540:0 1D545:1",
   "1D546:0 1D547:1 1D54A:0 1D551:1 1D552:0 1D6A6:1 1D6A8:0 1D7CC:1 1D7CE:0 1DA00:1 1DA37:0",
   "1DA3B:1 1DA6D:0 1DA75:1 1DA76:0 1DA84:1 1DA85:0 1DA8C:1 1DF00:0 1DF1F:1 1DF25:0 1DF2B:1",
   "1E030:0 1E06E:1 1E100:0 1E12D:1 1E137:0 1E13E:1 1E140:0 1E14A:1 1E14E:0 1E150:1 1E290:0",
   "1E2AE:1 1E2C0:0 1E2EC:1 1E2F0:0 1E2FA:1 1E2FF:0 1E300:1 1E4D0:0 1E4EC:1 1E4F0:0 1E4FA:1",
   "1E5D0:0 1E5FB:1 1E5FF:0 1E600:1 1E6C0:0 1E6DF:1 1E6E0:0 1E6F6:1 1E6FE:0 1E700:1 1E7E0:0",
   "1E7E7:1 1E7E8:0 1E7EC:1 1E7ED:0 1E7EF:1 1E7F0:0 1E7FF:1 1E800:0 1E8C5:1 1E8C7:0 1E8D0:1",
   "1E900:0 1E944:1 1E94B:0 1E94C:1 1E950:0 1E95A:1 1E95E:0 1E960:1 1EC71:0 1ECB5:1 1ED01:0",
   "1ED3E:1 1EE00:0 1EE04:1 1EE05:0 1EE20:1 1EE21:0 1EE23:1 1EE24:0 1EE25:1 1EE27:0 1EE28:1",
   "1EE29:0 1EE33:1 1EE34:0 1EE38:1 1EE39:0 1EE3A:1 1EE3B:0 1EE3C:1 1EE42:0 1EE43:1 1EE47:0",
   "1EE48:1 1EE49:0 1EE4A:1 1EE4B:0 1EE4C:1 1EE4D:0 1EE50:1 1EE51:0 1EE53:1 1EE54:0 1EE55:1",
   "1EE57:0 1EE58:1 1EE59:0 1EE5A:1 1EE5B:0 1EE5C:1 1EE5D:0 1EE5E:1 1EE5F:0 1EE60:1 1EE61:0",
   "1EE63:1 1EE64:0 1EE65:1 1EE67:0 1EE6B:1 1EE6C:0 1EE73:1 1EE74:0 1EE78:1 1EE79:0 1EE7D:1",
   "1EE7E:0 1EE7F:1 1EE80:0 1EE8A:1 1EE8B:0 1EE9C:1 1EEA1:0 1EEA4:1 1EEA5:0 1EEAA:1 1EEAB:0",
   "1EEBC:1 1EEF0:0 1EEF2:1 1F000:0 1F02C:1 1F030:0 1F094:1 1F0A0:0 1F0AF:1 1F0B1:0 1F0C0:1",
   "1F0C1:0 1F0D0:1 1F0D1:0 1F0F6:1 1F100:0 1F1AE:1 1F1E6:0 1F203:1 1F210:0 1F23C:1 1F240:0",
   "1F249:1 1F250:0 1F252:1 1F260:0 1F266:1 1F300:0 1F6D9:1 1F6DC:0 1F6ED:1 1F6F0:0 1F6FD:1",
   "1F700:0 1F7DA:1 1F7E0:0 1F7EC:1 1F7F0:0 1F7F1:1 1F800:0 1F80C:1 1F810:0 1F848:1 1F850:0",
   "1F85A:1 1F860:0 1F888:1 1F890:0 1F8AE:1 1F8B0:0 1F8BC:1 1F8C0:0 1F8C2:1 1F8D0:0 1F8D9:1",
   "1F900:0 1FA58:1 1FA60:0 1FA6E:1 1FA70:0 1FA7D:1 1FA80:0 1FA8B:1 1FA8E:0 1FAC7:1 1FAC8:0",
   "1FAC9:1 1FACD:0 1FADD:1 1FADF:0 1FAEB:1 1FAEF:0 1FAF9:1 1FB00:0 1FB93:1 1FB94:0 1FBFB:1",
   "20000:0 2A6E0:1 2A700:0 2B81E:1 2B820:0 2CEAE:1 2CEB0:0 2EBE1:1 2EBF0:0 2EE5E:1 2F800:0",
   "2FA1E:1 30000:0 3134B:1 31350:0 3347A:1"]

/-- Whether a character cannot be shown. Of ASCII these are the controls and DEL. -/
def isHidden (c : Char) : Bool :=
  c.toNat < 0x20 || (0x7F ≤ c.toNat && hiddenSteps.tag c.toNat == ['1'])

end FragmentFeed.Unicode
