import FragmentFeed.Unicode.StepTable

/-!
# Letters and numbers

The code points with the property Alphabetic or of general category Nd, Nl or No. Within ASCII these
are the letters and digits.
-/

namespace FragmentFeed.Unicode

/-- Steps of the property beyond ASCII, `1` where it holds. -/
def alphanumericSteps : StepTable := .ofLines
  ["80:0 AA:1 AB:0 B2:1 B4:0 B5:1 B6:0 B9:1 BB:0 BC:1 BF:0 C0:1 D7:0 D8:1 F7:0 F8:1 2C2:0 2C6:1",
   "2D2:0 2E0:1 2E5:0 2EC:1 2ED:0 2EE:1 2EF:0 345:1 346:0 370:1 375:0 376:1 378:0 37A:1 37E:0",
   "37F:1 380:0 386:1 387:0 388:1 38B:0 38C:1 38D:0 38E:1 3A2:0 3A3:1 3F6:0 3F7:1 482:0 48A:1",
   "530:0 531:1 557:0 559:1 55A:0 560:1 589:0 5B0:1 5BE:0 5BF:1 5C0:0 5C1:1 5C3:0 5C4:1 5C6:0",
   "5C7:1 5C8:0 5D0:1 5EB:0 5EF:1 5F3:0 610:1 61B:0 620:1 658:0 659:1 66A:0 66E:1 6D4:0 6D5:1",
   "6DD:0 6E1:1 6E9:0 6ED:1 6FD:0 6FF:1 700:0 710:1 740:0 74D:1 7B2:0 7C0:1 7EB:0 7F4:1 7F6:0",
   "7FA:1 7FB:0 800:1 818:0 81A:1 82D:0 840:1 859:0 860:1 86B:0 870:1 888:0 889:1 88F:0 8A0:1",
   "8CA:0 8D4:1 8E0:0 8E3:1 8EA:0 8F0:1 93C:0 93D:1 94D:0 94E:1 951:0 955:1 964:0 966:1 970:0",
   "971:1 984:0 985:1 98D:0 98F:1 991:0 993:1 9A9:0 9AA:1 9B1:0 9B2:1 9B3:0 9B6:1 9BA:0 9BD:1",
   "9C5:0 9C7:1 9C9:0 9CB:1 9CD:0 9CE:1 9CF:0 9D7:1 9D8:0 9DC:1 9DE:0 9DF:1 9E4:0 9E6:1 9F2:0",
   "9F4:1 9FA:0 9FC:1 9FD:0 A01:1 A04:0 A05:1 A0B:0 A0F:1 A11:0 A13:1 A29:0 A2A:1 A31:0 A32:1",
   "A34:0 A35:1 A37:0 A38:1 A3A:0 A3E:1 A43:0 A47:1 A49:0 A4B:1 A4D:0 A51:1 A52:0 A59:1 A5D:0",
   "A5E:1 A5F:0 A66:1 A76:0 A81:1 A84:0 A85:1 A8E:0 A8F:1 A92:0 A93:1 AA9:0 AAA:1 AB1:0 AB2:1",
   "AB4:0 AB5:1 ABA:0 ABD:1 AC6:0 AC7:1 ACA:0 ACB:1 ACD:0 AD0:1 AD1:0 AE0:1 AE4:0 AE6:1 AF0:0",
   "AF9:1 AFD:0 B01:1 B04:0 B05:1 B0D:0 B0F:1 B11:0 B13:1 B29:0 B2A:1 B31:0 B32:1 B34:0 B35:1",
   "B3A:0 B3D:1 B45:0 B47:1 B49:0 B4B:1 B4D:0 B56:1 B58:0 B5C:1 B5E:0 B5F:1 B64:0 B66:1 B70:0",
   "B71:1 B78:0 B82:1 B84:0 B85:1 B8B:0 B8E:1 B91:0 B92:1 B96:0 B99:1 B9B:0 B9C:1 B9D:0 B9E:1",
   "BA0:0 BA3:1 BA5:0 BA8:1 BAB:0 BAE:1 BBA:0 BBE:1 BC3:0 BC6:1 BC9:0 BCA:1 BCD:0 BD0:1 BD1:0",
   "BD7:1 BD8:0 BE6:1 BF3:0 C00:1 C0D:0 C0E:1 C11:0 C12:1 C29:0 C2A:1 C3A:0 C3D:1 C45:0 C46:1",
   "C49:0 C4A:1 C4D:0 C55:1 C57:0 C58:1 C5B:0 C5D:1 C5E:0 C60:1 C64:0 C66:1 C70:0 C78:1 C7F:0",
   "C80:1 C84:0 C85:1 C8D:0 C8E:1 C91:0 C92:1 CA9:0 CAA:1 CB4:0 CB5:1 CBA:0 CBD:1 CC5:0 CC6:1",
   "CC9:0 CCA:1 CCD:0 CD5:1 CD7:0 CDD:1 CDF:0 CE0:1 CE4:0 CE6:1 CF0:0 CF1:1 CF4:0 D00:1 D0D:0",
   "D0E:1 D11:0 D12:1 D3B:0 D3D:1 D45:0 D46:1 D49:0 D4A:1 D4D:0 D4E:1 D4F:0 D54:1 D64:0 D66:1",
   "D79:0 D7A:1 D80:0 D81:1 D84:0 D85:1 D97:0 D9A:1 DB2:0 DB3:1 DBC:0 DBD:1 DBE:0 DC0:1 DC7:0",
   "DCF:1 DD5:0 DD6:1 DD7:0 DD8:1 DE0:0 DE6:1 DF0:0 DF2:1 DF4:0 E01:1 E3B:0 E40:1 E47:0 E4D:1",
   "E4E:0 E50:1 E5A:0 E81:1 E83:0 E84:1 E85:0 E86:1 E8B:0 E8C:1 EA4:0 EA5:1 EA6:0 EA7:1 EBA:0",
   "EBB:1 EBE:0 EC0:1 EC5:0 EC6:1 EC7:0 ECD:1 ECE:0 ED0:1 EDA:0 EDC:1 EE0:0 F00:1 F01:0 F20:1",
   "F34:0 F40:1 F48:0 F49:1 F6D:0 F71:1 F84:0 F88:1 F98:0 F99:1 FBD:0 1000:1 1037:0 1038:1 1039:0",
   "103B:1 104A:0 1050:1 109E:0 10A0:1 10C6:0 10C7:1 10C8:0 10CD:1 10CE:0 10D0:1 10FB:0 10FC:1",
   "1249:0 124A:1 124E:0 1250:1 1257:0 1258:1 1259:0 125A:1 125E:0 1260:1 1289:0 128A:1 128E:0",
   "1290:1 12B1:0 12B2:1 12B6:0 12B8:1 12BF:0 12C0:1 12C1:0 12C2:1 12C6:0 12C8:1 12D7:0 12D8:1",
   "1311:0 1312:1 1316:0 1318:1 135B:0 1369:1 137D:0 1380:1 1390:0 13A0:1 13F6:0 13F8:1 13FE:0",
   "1401:1 166D:0 166F:1 1680:0 1681:1 169B:0 16A0:1 16EB:0 16EE:1 16F9:0 1700:1 1714:0 171F:1",
   "1734:0 1740:1 1754:0 1760:1 176D:0 176E:1 1771:0 1772:1 1774:0 1780:1 17B4:0 17B6:1 17C9:0",
   "17D7:1 17D8:0 17DC:1 17DD:0 17E0:1 17EA:0 17F0:1 17FA:0 1810:1 181A:0 1820:1 1879:0 1880:1",
   "18AB:0 18B0:1 18F6:0 1900:1 191F:0 1920:1 192C:0 1930:1 1939:0 1946:1 196E:0 1970:1 1975:0",
   "1980:1 19AC:0 19B0:1 19CA:0 19D0:1 19DB:0 1A00:1 1A1C:0 1A20:1 1A5F:0 1A61:1 1A75:0 1A80:1",
   "1A8A:0 1A90:1 1A9A:0 1AA7:1 1AA8:0 1ABF:1 1AC1:0 1ACC:1 1ACF:0 1B00:1 1B34:0 1B35:1 1B44:0",
   "1B45:1 1B4D:0 1B50:1 1B5A:0 1B80:1 1BAA:0 1BAC:1 1BE6:0 1BE7:1 1BF2:0 1C00:1 1C37:0 1C40:1",
   "1C4A:0 1C4D:1 1C7E:0 1C80:1 1C89:0 1C90:1 1CBB:0 1CBD:1 1CC0:0 1CE9:1 1CED:0 1CEE:1 1CF4:0",
   "1CF5:1 1CF7:0 1CFA:1 1CFB:0 1D00:1 1DC0:0 1DE7:1 1DF5:0 1E00:1 1F16:0 1F18:1 1F1E:0 1F20:1",
   "1F46:0 1F48:1 1F4E:0 1F50:1 1F58:0 1F59:1 1F5A:0 1F5B:1 1F5C:0 1F5D:1 1F5E:0 1F5F:1 1F7E:0",
   "1F80:1 1FB5:0 1FB6:1 1FBD:0 1FBE:1 1FBF:0 1FC2:1 1FC5:0 1FC6:1 1FCD:0 1FD0:1 1FD4:0 1FD6:1",
   "1FDC:0 1FE0:1 1FED:0 1FF2:1 1FF5:0 1FF6:1 1FFD:0 2070:1 2072:0 2074:1 207A:0 207F:1 208A:0",
   "2090:1 209D:0 2102:1 2103:0 2107:1 2108:0 210A:1 2114:0 2115:1 2116:0 2119:1 211E:0 2124:1",
   "2125:0 2126:1 2127:0 2128:1 2129:0 212A:1 212E:0 212F:1 213A:0 213C:1 2140:0 2145:1 214A:0",
   "214E:1 214F:0 2150:1 218A:0 2460:1 249C:0 24B6:1 2500:0 2776:1 2794:0 2C00:1 2CE5:0 2CEB:1",
   "2CEF:0 2CF2:1 2CF4:0 2CFD:1 2CFE:0 2D00:1 2D26:0 2D27:1 2D28:0 2D2D:1 2D2E:0 2D30:1 2D68:0",
   "2D6F:1 2D70:0 2D80:1 2D97:0 2DA0:1 2DA7:0 2DA8:1 2DAF:0 2DB0:1 2DB7:0 2DB8:1 2DBF:0 2DC0:1",
   "2DC7:0 2DC8:1 2DCF:0 2DD0:1 2DD7:0 2DD8:1 2DDF:0 2DE0:1 2E00:0 2E2F:1 2E30:0 3005:1 3008:0",
   "3021:1 302A:0 3031:1 3036:0 3038:1 303D:0 3041:1 3097:0 309D:1 30A0:0 30A1:1 30FB:0 30FC:1",
   "3100:0 3105:1 3130:0 3131:1 318F:0 3192:1 3196:0 31A0:1 31C0:0 31F0:1 3200:0 3220:1 322A:0",
   "3248:1 3250:0 3251:1 3260:0 3280:1 328A:0 32B1:1 32C0:0 3400:1 4DC0:0 4E00:1 A48D:0 A4D0:1",
   "A4FE:0 A500:1 A60D:0 A610:1 A62C:0 A640:1 A66F:0 A674:1 A67C:0 A67F:1 A6F0:0 A717:1 A720:0",
   "A722:1 A789:0 A78B:1 A7CB:0 A7D0:1 A7D2:0 A7D3:1 A7D4:0 A7D5:1 A7DA:0 A7F2:1 A806:0 A807:1",
   "A828:0 A830:1 A836:0 A840:1 A874:0 A880:1 A8C4:0 A8C5:1 A8C6:0 A8D0:1 A8DA:0 A8F2:1 A8F8:0",
   "A8FB:1 A8FC:0 A8FD:1 A92B:0 A930:1 A953:0 A960:1 A97D:0 A980:1 A9B3:0 A9B4:1 A9C0:0 A9CF:1",
   "A9DA:0 A9E0:1 A9FF:0 AA00:1 AA37:0 AA40:1 AA4E:0 AA50:1 AA5A:0 AA60:1 AA77:0 AA7A:1 AABF:0",
   "AAC0:1 AAC1:0 AAC2:1 AAC3:0 AADB:1 AADE:0 AAE0:1 AAF0:0 AAF2:1 AAF6:0 AB01:1 AB07:0 AB09:1",
   "AB0F:0 AB11:1 AB17:0 AB20:1 AB27:0 AB28:1 AB2F:0 AB30:1 AB5B:0 AB5C:1 AB6A:0 AB70:1 ABEB:0",
   "ABF0:1 ABFA:0 AC00:1 D7A4:0 D7B0:1 D7C7:0 D7CB:1 D7FC:0 F900:1 FA6E:0 FA70:1 FADA:0 FB00:1",
   "FB07:0 FB13:1 FB18:0 FB1D:1 FB29:0 FB2A:1 FB37:0 FB38:1 FB3D:0 FB3E:1 FB3F:0 FB40:1 FB42:0",
   "FB43:1 FB45:0 FB46:1 FBB2:0 FBD3:1 FD3E:0 FD50:1 FD90:0 FD92:1 FDC8:0 FDF0:1 FDFC:0 FE70:1",
   "FE75:0 FE76:1 FEFD:0 FF10:1 FF1A:0 FF21:1 FF3B:0 FF41:1 FF5B:0 FF66:1 FFBF:0 FFC2:1 FFC8:0",
   "FFCA:1 FFD0:0 FFD2:1 FFD8:0 FFDA:1 FFDD:0 10000:1 1000C:0 1000D:1 10027:0 10028:1 1003B:0",
   "1003C:1 1003E:0 1003F:1 1004E:0 10050:1 1005E:0 10080:1 100FB:0 10107:1 10134:0 10140:1",
   "10179:0 1018A:1 1018C:0 10280:1 1029D:0 102A0:1 102D1:0 102E1:1 102FC:0 10300:1 10324:0",
   "1032D:1 1034B:0 10350:1 1037B:0 10380:1 1039E:0 103A0:1 103C4:0 103C8:1 103D0:0 103D1:1",
   "103D6:0 10400:1 1049E:0 104A0:1 104AA:0 104B0:1 104D4:0 104D8:1 104FC:0 10500:1 10528:0",
   "10530:1 10564:0 10570:1 1057B:0 1057C:1 1058B:0 1058C:1 10593:0 10594:1 10596:0 10597:1",
   "105A2:0 105A3:1 105B2:0 105B3:1 105BA:0 105BB:1 105BD:0 10600:1 10737:0 10740:1 10756:0",
   "10760:1 10768:0 10780:1 10786:0 10787:1 107B1:0 107B2:1 107BB:0 10800:1 10806:0 10808:1",
   "10809:0 1080A:1 10836:0 10837:1 10839:0 1083C:1 1083D:0 1083F:1 10856:0 10858:1 10877:0",
   "10879:1 1089F:0 108A7:1 108B0:0 108E0:1 108F3:0 108F4:1 108F6:0 108FB:1 1091C:0 10920:1",
   "1093A:0 10980:1 109B8:0 109BC:1 109D0:0 109D2:1 10A04:0 10A05:1 10A07:0 10A0C:1 10A14:0",
   "10A15:1 10A18:0 10A19:1 10A36:0 10A40:1 10A49:0 10A60:1 10A7F:0 10A80:1 10AA0:0 10AC0:1",
   "10AC8:0 10AC9:1 10AE5:0 10AEB:1 10AF0:0 10B00:1 10B36:0 10B40:1 10B56:0 10B58:1 10B73:0",
   "10B78:1 10B92:0 10BA9:1 10BB0:0 10C00:1 10C49:0 10C80:1 10CB3:0 10CC0:1 10CF3:0 10CFA:1",
   "10D28:0 10D30:1 10D3A:0 10E60:1 10E7F:0 10E80:1 10EAA:0 10EAB:1 10EAD:0 10EB0:1 10EB2:0",
   "10F00:1 10F28:0 10F30:1 10F46:0 10F51:1 10F55:0 10F70:1 10F82:0 10FB0:1 10FCC:0 10FE0:1",
   "10FF7:0 11000:1 11046:0 11052:1 11070:0 11071:1 11076:0 11080:1 110B9:0 110C2:1 110C3:0",
   "110D0:1 110E9:0 110F0:1 110FA:0 11100:1 11133:0 11136:1 11140:0 11144:1 11148:0 11150:1",
   "11173:0 11176:1 11177:0 11180:1 111C0:0 111C1:1 111C5:0 111CE:1 111DB:0 111DC:1 111DD:0",
   "111E1:1 111F5:0 11200:1 11212:0 11213:1 11235:0 11237:1 11238:0 1123E:1 11242:0 11280:1",
   "11287:0 11288:1 11289:0 1128A:1 1128E:0 1128F:1 1129E:0 1129F:1 112A9:0 112B0:1 112E9:0",
   "112F0:1 112FA:0 11300:1 11304:0 11305:1 1130D:0 1130F:1 11311:0 11313:1 11329:0 1132A:1",
   "11331:0 11332:1 11334:0 11335:1 1133A:0 1133D:1 11345:0 11347:1 11349:0 1134B:1 1134D:0",
   "11350:1 11351:0 11357:1 11358:0 1135D:1 11364:0 11400:1 11442:0 11443:1 11446:0 11447:1",
   "1144B:0 11450:1 1145A:0 1145F:1 11462:0 11480:1 114C2:0 114C4:1 114C6:0 114C7:1 114C8:0",
   "114D0:1 114DA:0 11580:1 115B6:0 115B8:1 115BF:0 115D8:1 115DE:0 11600:1 1163F:0 11640:1",
   "11641:0 11644:1 11645:0 11650:1 1165A:0 11680:1 116B6:0 116B8:1 116B9:0 116C0:1 116CA:0",
   "11700:1 1171B:0 1171D:1 1172B:0 11730:1 1173C:0 11740:1 11747:0 11800:1 11839:0 118A0:1",
   "118F3:0 118FF:1 11907:0 11909:1 1190A:0 1190C:1 11914:0 11915:1 11917:0 11918:1 11936:0",
   "11937:1 11939:0 1193B:1 1193D:0 1193F:1 11943:0 11950:1 1195A:0 119A0:1 119A8:0 119AA:1",
   "119D8:0 119DA:1 119E0:0 119E1:1 119E2:0 119E3:1 119E5:0 11A00:1 11A33:0 11A35:1 11A3F:0",
   "11A50:1 11A98:0 11A9D:1 11A9E:0 11AB0:1 11AF9:0 11C00:1 11C09:0 11C0A:1 11C37:0 11C38:1",
   "11C3F:0 11C40:1 11C41:0 11C50:1 11C6D:0 11C72:1 11C90:0 11C92:1 11CA8:0 11CA9:1 11CB7:0",
   "11D00:1 11D07:0 11D08:1 11D0A:0 11D0B:1 11D37:0 11D3A:1 11D3B:0 11D3C:1 11D3E:0 11D3F:1",
   "11D42:0 11D43:1 11D44:0 11D46:1 11D48:0 11D50:1 11D5A:0 11D60:1 11D66:0 11D67:1 11D69:0",
   "11D6A:1 11D8F:0 11D90:1 11D92:0 11D93:1 11D97:0 11D98:1 11D99:0 11DA0:1 11DAA:0 11EE0:1",
   "11EF7:0 11F00:1 11F11:0 11F12:1 11F3B:0 11F3E:1 11F41:0 11F50:1 11F5A:0 11FB0:1 11FB1:0",
   "11FC0:1 11FD5:0 12000:1 1239A:0 12400:1 1246F:0 12480:1 12544:0 12F90:1 12FF1:0 13000:1",
   "13430:0 13441:1 13447:0 14400:1 14647:0 16800:1 16A39:0 16A40:1 16A5F:0 16A60:1 16A6A:0",
   "16A70:1 16ABF:0 16AC0:1 16ACA:0 16AD0:1 16AEE:0 16B00:1 16B30:0 16B40:1 16B44:0 16B50:1",
   "16B5A:0 16B5B:1 16B62:0 16B63:1 16B78:0 16B7D:1 16B90:0 16E40:1 16E97:0 16F00:1 16F4B:0",
   "16F4F:1 16F88:0 16F8F:1 16FA0:0 16FE0:1 16FE2:0 16FE3:1 16FE4:0 16FF0:1 16FF2:0 17000:1",
   "187F8:0 18800:1 18CD6:0 18D00:1 18D09:0 1AFF0:1 1AFF4:0 1AFF5:1 1AFFC:0 1AFFD:1 1AFFF:0",
   "1B000:1 1B123:0 1B132:1 1B133:0 1B150:1 1B153:0 1B155:1 1B156:0 1B164:1 1B168:0 1B170:1",
   "1B2FC:0 1BC00:1 1BC6B:0 1BC70:1 1BC7D:0 1BC80:1 1BC89:0 1BC90:1 1BC9A:0 1BC9E:1 1BC9F:0",
   "1D2C0:1 1D2D4:0 1D2E0:1 1D2F4:0 1D360:1 1D379:0 1D400:1 1D455:0 1D456:1 1D49D:0 1D49E:1",
   "1D4A0:0 1D4A2:1 1D4A3:0 1D4A5:1 1D4A7:0 1D4A9:1 1D4AD:0 1D4AE:1 1D4BA:0 1D4BB:1 1D4BC:0",
   "1D4BD:1 1D4C4:0 1D4C5:1 1D506:0 1D507:1 1D50B:0 1D50D:1 1D515:0 1D516:1 1D51D:0 1D51E:1",
   "1D53A:0 1D53B:1 1D53F:0 1D540:1 1D545:0 1D546:1 1D547:0 1D54A:1 1D551:0 1D552:1 1D6A6:0",
   "1D6A8:1 1D6C1:0 1D6C2:1 1D6DB:0 1D6DC:1 1D6FB:0 1D6FC:1 1D715:0 1D716:1 1D735:0 1D736:1",
   "1D74F:0 1D750:1 1D76F:0 1D770:1 1D789:0 1D78A:1 1D7A9:0 1D7AA:1 1D7C3:0 1D7C4:1 1D7CC:0",
   "1D7CE:1 1D800:0 1DF00:1 1DF1F:0 1DF25:1 1DF2B:0 1E000:1 1E007:0 1E008:1 1E019:0 1E01B:1",
   "1E022:0 1E023:1 1E025:0 1E026:1 1E02B:0 1E030:1 1E06E:0 1E08F:1 1E090:0 1E100:1 1E12D:0",
   "1E137:1 1E13E:0 1E140:1 1E14A:0 1E14E:1 1E14F:0 1E290:1 1E2AE:0 1E2C0:1 1E2EC:0 1E2F0:1",
   "1E2FA:0 1E4D0:1 1E4EC:0 1E4F0:1 1E4FA:0 1E7E0:1 1E7E7:0 1E7E8:1 1E7EC:0 1E7ED:1 1E7EF:0",
   "1E7F0:1 1E7FF:0 1E800:1 1E8C5:0 1E8C7:1 1E8D0:0 1E900:1 1E944:0 1E947:1 1E948:0 1E94B:1",
   "1E94C:0 1E950:1 1E95A:0 1EC71:1 1ECAC:0 1ECAD:1 1ECB0:0 1ECB1:1 1ECB5:0 1ED01:1 1ED2E:0",
   "1ED2F:1 1ED3E:0 1EE00:1 1EE04:0 1EE05:1 1EE20:0 1EE21:1 1EE23:0 1EE24:1 1EE25:0 1EE27:1",
   "1EE28:0 1EE29:1 1EE33:0 1EE34:1 1EE38:0 1EE39:1 1EE3A:0 1EE3B:1 1EE3C:0 1EE42:1 1EE43:0",
   "1EE47:1 1EE48:0 1EE49:1 1EE4A:0 1EE4B:1 1EE4C:0 1EE4D:1 1EE50:0 1EE51:1 1EE53:0 1EE54:1",
   "1EE55:0 1EE57:1 1EE58:0 1EE59:1 1EE5A:0 1EE5B:1 1EE5C:0 1EE5D:1 1EE5E:0 1EE5F:1 1EE60:0",
   "1EE61:1 1EE63:0 1EE64:1 1EE65:0 1EE67:1 1EE6B:0 1EE6C:1 1EE73:0 1EE74:1 1EE78:0 1EE79:1",
   "1EE7D:0 1EE7E:1 1EE7F:0 1EE80:1 1EE8A:0 1EE8B:1 1EE9C:0 1EEA1:1 1EEA4:0 1EEA5:1 1EEAA:0",
   "1EEAB:1 1EEBC:0 1F100:1 1F10D:0 1F130:1 1F14A:0 1F150:1 1F16A:0 1F170:1 1F18A:0 1FBF0:1",
   "1FBFA:0 20000:1 2A6E0:0 2A700:1 2B73A:0 2B740:1 2B81E:0 2B820:1 2CEA2:0 2CEB0:1 2EBE1:0",
   "2F800:1 2FA1E:0 30000:1 3134B:0 31350:1 323B0:0"]

/-- Whether a character is a letter or a number. -/
def isAlphanumeric (c : Char) : Bool :=
  if c.toNat < 0x80 then c.isAlphanum else alphanumericSteps.tag c.toNat = ['1']

/-- ASCII letters and digits are among them. -/
theorem isAlphanumeric_of_isAlphanum {c : Char} (h : c.toNat < 0x80) :
    isAlphanumeric c = c.isAlphanum := by
  simp [isAlphanumeric, h]

end FragmentFeed.Unicode
