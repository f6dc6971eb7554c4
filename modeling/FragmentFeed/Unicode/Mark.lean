import FragmentFeed.Unicode.StepTable

/-!
# Combining marks

The code points of general category Mn, Mc or Me. A label of a domain name does not begin with one.
-/

namespace FragmentFeed.Unicode

/-- Steps of the property, `1` where it holds. -/
def markSteps : StepTable := .ofLines
  ["A1:0 300:1 371:0 483:1 48B:0 591:1 5BE:0 5BF:1 5C0:0 5C1:1 5C3:0 5C4:1 5C6:0 5C7:1 5D0:0",
   "610:1 61B:0 64B:1 660:0 670:1 671:0 6D6:1 6DE:0 6DF:1 6E5:0 6E7:1 6E9:0 6EA:1 6EE:0 711:1",
   "712:0 730:1 74D:0 7A6:1 7B1:0 7EB:1 7F4:0 7FD:1 7FE:0 816:1 81A:0 81B:1 824:0 825:1 828:0",
   "829:1 830:0 859:1 85E:0 898:1 8A0:0 8CA:1 904:0 93A:1 93D:0 93E:1 950:0 951:1 960:0 962:1",
   "964:0 981:1 985:0 9BC:1 9BD:0 9BE:1 9CE:0 9D7:1 9E0:0 9E2:1 9E6:0 9FE:1 A05:0 A3C:1 A5C:0",
   "A70:1 A72:0 A75:1 A76:0 A81:1 A85:0 ABC:1 ABD:0 ABE:1 AD0:0 AE2:1 AE6:0 AFA:1 B05:0 B3C:1",
   "B3D:0 B3E:1 B5F:0 B62:1 B66:0 B82:1 B83:0 BBE:1 BD0:0 BD7:1 BE6:0 C00:1 C05:0 C3C:1 C3D:0",
   "C3E:1 C58:0 C62:1 C66:0 C81:1 C84:0 CBC:1 CBD:0 CBE:1 CDC:0 CE2:1 CE6:0 CF3:1 D04:0 D3B:1",
   "D3D:0 D3E:1 D4E:0 D57:1 D58:0 D62:1 D66:0 D81:1 D85:0 DCA:1 DE6:0 DF2:1 DF4:0 E31:1 E32:0",
   "E34:1 E3F:0 E47:1 E4F:0 EB1:1 EB2:0 EB4:1 EBD:0 EC8:1 ED0:0 F18:1 F1A:0 F35:1 F36:0 F37:1",
   "F38:0 F39:1 F3A:0 F3E:1 F40:0 F71:1 F85:0 F86:1 F88:0 F8D:1 FBE:0 FC6:1 FC7:0 102B:1 103F:0",
   "1056:1 105A:0 105E:1 1061:0 1062:1 1065:0 1067:1 106E:0 1071:1 1075:0 1082:1 108E:0 108F:1",
   "1090:0 109A:1 109E:0 135D:1 1360:0 1712:1 171F:0 1732:1 1735:0 1752:1 1760:0 1772:1 1780:0",
   "17B6:1 17D4:0 17DD:1 17E0:0 1885:1 1887:0 18A9:1 18AA:0 1920:1 1940:0 1A17:1 1A1E:0 1A55:1",
   "1A80:0 1AB0:1 1ACF:0 1B00:1 1B05:0 1B34:1 1B45:0 1B6B:1 1B74:0 1B80:1 1B83:0 1BA1:1 1BAE:0",
   "1BE6:1 1BFC:0 1C24:1 1C3B:0 1CD0:1 1CD3:0 1CD4:1 1CE9:0 1CED:1 1CEE:0 1CF4:1 1CF5:0 1CF7:1",
   "1CFA:0 1DC0:1 1E01:0 20D0:1 2104:0 2CEF:1 2CF3:0 2D7F:1 2D80:0 2DE0:1 2E00:0 302A:1 3030:0",
   "3099:1 309D:0 A66F:1 A673:0 A674:1 A67E:0 A69E:1 A6A0:0 A6F0:1 A6F2:0 A802:1 A803:0 A806:1",
   "A807:0 A80B:1 A80C:0 A823:1 A828:0 A82C:1 A830:0 A880:1 A882:0 A8B4:1 A8CE:0 A8E0:1 A8F2:0",
   "A8FF:1 A900:0 A926:1 A92E:0 A947:1 A95F:0 A980:1 A984:0 A9B3:1 A9C1:0 A9E5:1 A9E6:0 AA29:1",
   "AA40:0 AA43:1 AA44:0 AA4C:1 AA50:0 AA7B:1 AA7E:0 AAB0:1 AAB1:0 AAB2:1 AAB5:0 AAB7:1 AAB9:0",
   "AABE:1 AAC0:0 AAC1:1 AAC2:0 AAEB:1 AAF0:0 AAF5:1 AB01:0 ABE3:1 ABEB:0 ABEC:1 ABF0:0 FB1E:1",
   "FBB2:0 FE20:1 FE45:0 101FD:1 10280:0 102E0:1 102E1:0 10376:1 10380:0 10A01:1 10A10:0 10A38:1",
   "10A40:0 10AE5:1 10AEB:0 10D24:1 10D30:0 10EAB:1 10EAD:0 10EFD:1 10F00:0 10F46:1 10F51:0",
   "10F82:1 10F86:0 11000:1 11003:0 11038:1 11047:0 11070:1 11071:0 11073:1 11075:0 1107F:1",
   "11083:0 110B0:1 110BB:0 110C2:1 110D0:0 11100:1 11103:0 11127:1 11136:0 11145:1 11147:0",
   "11173:1 11174:0 11180:1 11183:0 111B3:1 111C1:0 111C9:1 111CD:0 111CE:1 111D0:0 1122C:1",
   "11238:0 1123E:1 1123F:0 11241:1 11280:0 112DF:1 112F0:0 11300:1 11305:0 1133B:1 1133D:0",
   "1133E:1 11350:0 11357:1 1135D:0 11362:1 11380:0 11435:1 11447:0 1145E:1 1145F:0 114B0:1",
   "114C4:0 115AF:1 115C1:0 115DC:1 11600:0 11630:1 11641:0 116AB:1 116B8:0 1171D:1 11730:0",
   "1182C:1 1183B:0 11930:1 1193F:0 11940:1 11941:0 11942:1 11944:0 119D1:1 119E1:0 119E4:1",
   "11A00:0 11A01:1 11A0B:0 11A33:1 11A3A:0 11A3B:1 11A3F:0 11A47:1 11A50:0 11A51:1 11A5C:0",
   "11A8A:1 11A9A:0 11C2F:1 11C40:0 11C92:1 11D00:0 11D31:1 11D46:0 11D47:1 11D50:0 11D8A:1",
   "11D98:0 11EF3:1 11EF7:0 11F00:1 11F02:0 11F03:1 11F04:0 11F34:1 11F43:0 13440:1 13441:0",
   "13447:1 13460:0 16AF0:1 16AF5:0 16B30:1 16B37:0 16F4F:1 16F50:0 16F51:1 16F93:0 16FE4:1",
   "16FF2:0 1BC9D:1 1BC9F:0 1CF00:1 1CF50:0 1D165:1 1D16A:0 1D16D:1 1D183:0 1D185:1 1D18C:0",
   "1D1AA:1 1D1AE:0 1D242:1 1D245:0 1DA00:1 1DA37:0 1DA3B:1 1DA6D:0 1DA75:1 1DA76:0 1DA84:1",
   "1DA85:0 1DA9B:1 1DF00:0 1E000:1 1E100:0 1E130:1 1E137:0 1E2AE:1 1E2C0:0 1E2EC:1 1E2F0:0",
   "1E4EC:1 1E4F0:0 1E8D0:1 1E922:0 1E944:1 1E94B:0"]

/-- Whether a character is a combining mark. -/
def isMark (c : Char) : Bool := markSteps.tag c.toNat = ['1']

end FragmentFeed.Unicode
