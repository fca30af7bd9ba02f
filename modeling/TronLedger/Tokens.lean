import TronLedger.Proto

/-!
# Token and service tables

The constant tables of `tokens.c` and `known_services.c`. An address is written as the
number its 21 bytes form.
-/

namespace TronLedger

def Address.ofNat (value : Nat) : Address := ⟨beBytes 21 value, beBytes_length 21 value⟩

structure TokenDefinition where
  address : Address
  /-- the C string in `ticker[10]` -/
  ticker : Bytes
  decimals : UInt8
  deriving DecidableEq

def token (address : Nat) (ticker : String) (decimals : UInt8) : TokenDefinition :=
  ⟨Address.ofNat address, ascii ticker, decimals⟩

def tokenPublicKey : Bytes :=
  beBytes 65 0x0492491c3f954d0a2a71e7f475e30ffbeb967aafde678f44a3a3264d813f498d954b3e000f4a71cbcdf4c97c609d3d207b75132aee66c0842dd8d0f6dd5054aa6c

/-- `a9059cbb`, transfer(address,uint256), and `095ea7b3`, approve(address,uint256) -/
def selectors : List Bytes := [[0xA9, 0x05, 0x9C, 0xBB], [0x09, 0x5E, 0xA7, 0xB3]]

/-- `TOKENS_TRC20` -/
def tokensTRC20 : List TokenDefinition := [
  token 0x41dbf2b73df123ed12899951a1382548245e52b8f9 "PKT" 6,
  token 0x41b88aecb926a854c1a180e5e2949e0123bddca499 "ZTR" 18,
  token 0x415ca8d13e63e329704da906bd8cb9d0fe22173dc7 "1UP" 8,
  token 0x4162fcf12e166ce427757adca31af0e59e92a2e166 "PCB" 18,
  token 0x411a32d57d10d3052e43b4eb67208f446976e40209 "6KPEN" 18,
  token 0x41fef3f2bb377108590f36c0198598f1b8f933379c "SVN" 6,
  token 0x417818637395075a1aaa82927801dab4117b99fc3f "888" 6,
  token 0x418a8102d7e24830676f5285f4b28faeeeb4d8708d "AB" 6,
  token 0x41ecb0012d84eb8ddc81a62b2780e5f93a4aa63ce2 "APL" 6,
  token 0x41db118376da50723cfc35aa2ba98c36c6220fb745 "ATT" 6,
  token 0x4151739cbd5ebde2427b759e1384736a14fec29c54 "ADC" 6,
  token 0x41d53b62c1f081ea5c2a06209835f1fb3ee4d3d13a "AEON" 6,
  token 0x4165ea4caf93be572045a92360299db61ddf92b559 "AFG" 2,
  token 0x41d3998a3d9510e35bf483b14f8c516493b9f453ba "AIT" 0,
  token 0x41594d2c8f1be0f7e9ce5395f7a4867d7c6f893d0d "AMI" 6,
  token 0x41c32de2e98330230ab2c2c07c8e6a03a7efb5a4aa "AIAB" 0,
  token 0x4150ee24c4f9df63b4b2ae2a402b3cf5524f87330c "AIAC" 0,
  token 0x413694337c91f5cad16f0d7c4130debd2ce88c9b8f "ATS" 6,
  token 0x41e99a7e35bd0ba3d7c418c1215f6b529da0c47c4c "AFC" 6,
  token 0x4168d93fc6e8b470a5149e26229dcc235683768344 "APF" 6,
  token 0x413dcced142303a2a67e3297e925fdd96540af4589 "ARC" 18,
  token 0x41ec87b6c767fc70408d83d85112d09b296d68bdf6 "XBGI" 6,
  token 0x41422afcae9053adfffe8845bc6684b5bbca6b3f87 "BCAB" 6,
  token 0x412d7160894c2ef060d94e36dd3e23fe601b2bb56c "BCN" 6,
  token 0x4132968e93dc3a56eecff13edcc4009af4ef21b07e "BFB" 8,
  token 0x41bf65c5cdd869807dece245d4ae2a0256a8d21dab "BJ" 6,
  token 0x4189c8853b49af3cffe9759778278355460f962fb1 "BLAZE" 6,
  token 0x411429f3bef499242c2a346e3220fa3f94f6dd46c9 "BOG" 4,
  token 0x419f66d0554e8bba2b310397009f3b9c6c7d6fbcfb "BOMB" 6,
  token 0x41db32fb5ff8759083be2f2e01a67932a9d1f49183 "BTL" 6,
  token 0x412c00479032420e995567dd388d61ec32abddb1ed "BUTK" 6,
  token 0x41dab137e09d23f855af0cc42e336dada254352c16 "BNKR" 6,
  token 0x418caeea9c7ebb8840ee4b49d10542b99cec6ffbc6 "BNKR" 6,
  token 0x412c088ccba5f2148bfded09c1e53c10fd7a761632 "BHN" 0,
  token 0x414b4ab118ab2c3bebf99b4cb7b20e08e4de78367a "BR" 0,
  token 0x4133513f7226a7115f915da676261c21acfd3c66c3 "BOR" 6,
  token 0x416f7661e7ca8b49bf8f06caa8b945d491f7eea007 "BBN" 0,
  token 0x41b7cb2440b87349791cff6e10d60f42a028c69ebc "BBK" 0,
  token 0x411aa1cfe7a5374a12dd2aae8c9852a49140f5b196 "BD" 0,
  token 0x41c6c70cbd6c77ac1cb533b6e88ff73ef4bd5d6195 "BFWW" 0,
  token 0x41e02e5bccc0f9cbec57f4121a66b27e0ae7855ddd "BG" 0,
  token 0x41145dc2da94eb3ef08f948bb69f923355d24e8152 "BH" 0,
  token 0x4193dd6387269ca67d32201cbf1586fa502b532983 "BS" 0,
  token 0x41bf152ebb011728f6bbca3ebfbac7357fe2066d59 "TCB" 0,
  token 0x414364c9e1bb31ab815ad13c41684ea29623b88fab "Bee" 8,
  token 0x419e9b004c4bf1b9c55b364d011f00a893ef5b7ab8 "BHC" 6,
  token 0x41f6e1fef44c47dff0ab57a3a57f7fc3862e0d852e "BFC" 6,
  token 0x41957164adbd1d7f333c32d71e37c512261763c405 "BFG" 6,
  token 0x41428e0ca345bd7b43040ee2840083d8cd96add760 "PLAT" 6,
  token 0x41c2a9bcc8c473299ed1a4bdb8111d0ef49aeda712 "BkOn" 18,
  token 0x419e9487f52b913cd06793936acae7d8863fc4cf45 "BLKT" 18,
  token 0x41e4afb89bce4331673bee381e270cf84ead66356c "BPC" 6,
  token 0x414106bba560eda894a51c4c9e804642aeb1e5524d "BHT" 18,
  token 0x413af37729a73a4510da6b202f8d5fc55b19783bfd "BBL" 0,
  token 0x416a8c5d65fd540061dbb8d967fe5e39c4b9bb00e5 "BC" 0,
  token 0x41b9d0d3cc416c44b396e989e295b5982ea2cadba3 "BPT" 6,
  token 0x41f7e2413021fbbe0da81d6ab76b92ffe569bdc4d3 "CCV" 6,
  token 0x411df7a27fb560df6f998f9591a13158b5438e714b "CTT" 0,
  token 0x41e5f723b79737a8c17665c61cbf23cb48379ca2c1 "CASINO" 8,
  token 0x41a6c56af75e748f54a628506fc8369e14e8187cd6 "CND" 6,
  token 0x4170a0f1a9a2dfe718e1d85af00c7080f1fbfe17ac "CHB" 6,
  token 0x41b95d3fde7cb3cc7256d50ec700645da707e83e2f "CHB" 6,
  token 0x4158217438f77f082fa6b9a16c0528f6aa8d8c8172 "Chain20" 6,
  token 0x41f34224d4cd138f922f6545d6849f1d00607b7f54 "ChainT20" 6,
  token 0x41db665b0cb9d30296e8da708ec1b4079082a0be4f "ChainTok" 6,
  token 0x414f176501fff943cefadd24fb680dd7b67ae73c96 "CBE" 0,
  token 0x417b7064459e7ded2e87919fc0791e71be93c3c26d "FCF" 0,
  token 0x416737d575ecaeebf65059d75b771cfddf4756c319 "CDT" 6,
  token 0x413db3685c097ad9d2a35a8a8aa7e401f56fc6357e "CGT" 6,
  token 0x41f0df0be469f56d04f218292050f486e2b97a1327 "CTT" 6,
  token 0x4125dc15da96d2da6419a1f199302a9497858a76e6 "CEC" 6,
  token 0x4126dcdf3ebb17e44bd424cb1e04c4e72475acc9b2 "CIP" 6,
  token 0x412e910d396210c40d7931f1b5420a26ce364f4955 "CIP" 6,
  token 0x4152edb123cbee986315b0caea83ca6a775b4229e3 "CMC" 6,
  token 0x41b8075b0fb52b7a8df8122dda49787829529a4ab7 "CFT" 6,
  token 0x41bf33b26eea5a29a7fa1defabd399ccc082299a94 "DOG" 6,
  token 0x4139600ad341928ec687cbbc5d1b326e164ef39693 "CCC" 6,
  token 0x41a4fe37751cd86c232ab6e722ffd32f8f177f3807 "CCGX" 6,
  token 0x41d8cbc94cf1fbee445e665c09d59ef0dc0163bea9 "CCGX" 8,
  token 0x41119de40ea5b5b39da2be96eab6158558564ed850 "PZT" 6,
  token 0x418147dadaeb8312a76792f69620bd3c6015d0e174 "SPIN" 6,
  token 0x41ddfd3c1e028eeebcbda0e7f37d6bd0ab8fbc1538 "TYCO" 6,
  token 0x418a8ecfca16ad51712ac1f35bf92eefec924cbd2e "CVS" 8,
  token 0x41cdd0acb66dbc200d49ac390f95237672505cd5f1 "CRC" 6,
  token 0x41c10c84ed98ac970906a7120be485db10a4b71358 "CNC" 6,
  token 0x41a8f28075460d27f634b1baa9387184c99813f687 "DAO" 18,
  token 0x41c0d551354445252c48f2b8c51c257b8955db8d47 "DCI" 6,
  token 0x41c80b3cdcaf4c560eaa79ae66cb98c225a3a59860 "DDOS" 6,
  token 0x41c172090a8855736fcd6a03ba6c394575df19172a "DECP" 6,
  token 0x41eeab9312864decda9cebd1d38cd53e306b816433 "DEX" 8,
  token 0x413843c8ecf7312f5dbc17b92265d77cb673212e7a "DEX" 8,
  token 0x41edf82cecae135a146bd5b48a0ae315dabb5efadc "DLI" 6,
  token 0x4180b463b499ae9f0ac24a9cf2261388a64a5fa563 "DLN" 6,
  token 0x41151d7418f5c2c9f90898cfb6d3010c78aa140699 "DNFT" 6,
  token 0x41650afdf54a3f3def2cb847d52400b7d6320727fd "DRS" 6,
  token 0x41fade417b7cb304d7f763756dd02499668eb5026c "DTF" 18,
  token 0x415be4c4277db031b4783ea92b82935354a5456eba "DTI" 6,
  token 0x41d108a16d16ef4c54eccc575495796dcf84176684 "DXA" 6,
  token 0x418a1f15f1ef714914b8994c38dfb4eaf1ef027321 "DXN" 6,
  token 0x410a706988aba85953d1346a56bf44697972c4931b "DYI" 6,
  token 0x4160ed9f7007aefffb27921ae7c0f3eda2bbfb8e96 "DZG" 6,
  token 0x41ea19970441c394f00f47be27bcd03810d9bd2d87 "DST" 1,
  token 0x41c2bcf0c0b8820de8dabd51e6a474255fa4da6a35 "DRA" 6,
  token 0x419a1f83164394bcb358ef40398bd00292300f3229 "DRA" 18,
  token 0x41d4b9aa6a5878bf65faa2370b1eef275e00ec09a1 "DRA" 6,
  token 0x4159e0dca594d0318e73862dbe816f81729d80c1b2 "DASH" 6,
  token 0x41b944889597565514114ef0d93563cc42a55be658 "Desc20" 6,
  token 0x41efaa2dd6b8b71b828bc0a2f5965003565111134e "DVS" 6,
  token 0x4196f8e26e6a181622a6e5772a0af91b82a38ebda1 "DINF" 10,
  token 0x41851a5f90207d9b16e91be97b55a5c03f75ea038b "DOA" 6,
  token 0x41b6b4cbf582d31e03a039fe6360f9785b01cbb6ad "DOO" 6,
  token 0x415d256fb549b39495030ddc5460f2364955aac4e3 "DC" 6,
  token 0x4199adf4c8fad94a6c928eea4e436088ca5c65c32e "DUEL" 6,
  token 0x41533abac4ca0acf8e4bff9613c58a3d80906578ee "EEE" 6,
  token 0x41c5f7e0f173f8101e937e6c8d386a5596eb1ece93 "EMS" 8,
  token 0x417eb410b0e23c224805a1cf46b4d7eee6126a1f50 "ENGY" 6,
  token 0x41d8b74e1d651a235d269456c5f1ac335a57fb1bbf "TET" 7,
  token 0x41f28de531696b79d0e503b5320520c6e48baf2194 "ET" 7,
  token 0x411af2d8946944035538d8c13833d2c3f59d456ab1 "EME" 6,
  token 0x4144425ce1eebe14e0c317bdfce859f9b3ada677b9 "EST" 6,
  token 0x416e0d26adf5323f5b82d5714354dc3c6870adee7c "RING" 18,
  token 0x4140ca638f96f1cae9d42f6b6486c5fa2ebf0970e6 "EXC" 6,
  token 0x41fc371e5cb62c1c09431278e36004cbdf7772b03c "FF" 6,
  token 0x416a650e98823779f44b3ef6d42d26fa1725705451 "FOMO" 6,
  token 0x4197e47e0c1c2ac0e87f4e17faca01be854b2569c8 "FRAG" 18,
  token 0x4196f20b5e97bf026d099d867bbf97d319f6f6a048 "FUNC" 6,
  token 0x41bcd9112c92b0c655c1eca5c6a96bf2fa49138f10 "FAC" 8,
  token 0x4111c43f6cebd28649faea0c5cb92632a7afd43aa7 "FARM" 6,
  token 0x41f89652c7db58e14ed1ad33cb52f24985ea708aaf "FSC" 6,
  token 0x4192ed0834b4d2d4456aa260aa5e8ed3ebfe6ca308 "FOP" 6,
  token 0x41cef51aa1c2df3efa95af64839cd3cf1ab836d349 "BONDS" 6,
  token 0x41afa7b7d8ac6d559917b5701cd432123bc5457b4b "GAC" 6,
  token 0x4104b0cea2fb000308bd1159cdbfd5fbc81c2c2065 "GEX" 6,
  token 0x411d35fe3cea5f86d316a08c183c08bd56a82d1493 "GEX" 6,
  token 0x41f5e0aec53995fb93588ca656a959ac467523db83 "GAME" 18,
  token 0x413220ce3748b947dfcb594ee6e2e36a8398b2a1c4 "GEMS" 6,
  token 0x41f6f20ccc7b6a99943c951d71ee4560e309f52c23 "GEMS" 6,
  token 0x414a177aa27de79f60908404c0148afe9acbac6231 "GEMS" 6,
  token 0x41d66b798d45f3870787e46658162141bed4c03fad "GLGT" 2,
  token 0x4114e3683d8a4937e42c8b0857cf83683d5607d88f "GLC" 8,
  token 0x412321b9830f505841b8eec850d7a5d1069d725d31 "GML" 6,
  token 0x410c7965f28e411f22276861e335f84962af1287cc "AIGL" 0,
  token 0x4152fbfbdb4caac8e62e2f7a0b4497b7848d4d1522 "AIGL" 0,
  token 0x41dbcc925c24d6a692b0dc7e749b8f08e2d2b3b258 "GF" 6,
  token 0x410cd5cfc52ba20822f32ba4e5c96ccc5bdd467d16 "GGC" 6,
  token 0x4193ab45ee7403e40b693df6718201f048046393f9 "GOAL" 6,
  token 0x4106dfc19970c8a4b919ccf7e9155cf05eb62965f4 "GWT" 8,
  token 0x4121c1d0d57d4b988a268268a75ddc714512742d40 "GT" 6,
  token 0x41cfb17ed2ff16b91e702f8e7fcd6e5347afb82ea4 "HW" 6,
  token 0x418c146efd88c9b7a62732d4d5d9798d17c43cbeeb "HORA" 6,
  token 0x41824f0d174c94d1870845f8ab73b7b19757ae9315 "tst" 8,
  token 0x4154c1abdfcc92739b63d88a857394a83f2b4300aa "HRX" 6,
  token 0x41b543b06a0dc4337408f1e42aa25d4a5b42cc23b0 "HRX" 6,
  token 0x4193a63a849977514375fad45d937a17e7a1e54086 "ICD" 18,
  token 0x41d51f8e9d2ef0a7317b758541b0a552706bedb3e8 "IGG" 6,
  token 0x419d844c5ef6becf29c51d53871c6240607d51fa9e "ORB" 2,
  token 0x41ced89e3b8a3b52632ed666d46b529f8c690a41c5 "IOS" 8,
  token 0x41f27f778e4d2227fb729d5c1cd4f0931b8f73e81f "IRS" 6,
  token 0x4153b9e048179389e8cf5544c0b52b8b31db846889 "IRC" 18,
  token 0x419f7080990dd167edeaa2748768c4a2e85c8ea865 "JT" 0,
  token 0x41eda13b8c8fb188045ed97ee016a57c6defb34fbc "KT" 6,
  token 0x4110d40efadeddad4abff21b8764f0311efd81a166 "KCD" 0,
  token 0x416c89e84cf5937c5617d934e15baf30f51b75ad1e "KGT" 9,
  token 0x417b30bced015fcd05b9c9929fedfb7de10da94245 "KGT" 9,
  token 0x419f599605d971f2d686439784eb57f76654df974c "KGTP" 9,
  token 0x41590bf312d8de938ea333312ee6ed2f3eb09c0696 "LIME" 6,
  token 0x41529f5e88f706a7f546191288c8e7f34d6381b5a7 "LUCKY" 6,
  token 0x416e1b53e56b99a617e438ce73e67494c9f91ce288 "LUCKY" 6,
  token 0x41ffda8b1e83205d5a3852c490fb6eedc07073198a "LIBRA" 8,
  token 0x410c3be140ea611d59dd7ba0b825d6f17c167d55ed "TLT" 10,
  token 0x41346bf1271988c277ed94b86507b7b9bff31bb39c "TLT" 10,
  token 0x418033432847eeb2f05f9a2b045091b52135d37496 "TLT" 10,
  token 0x416d0e69a41a8505143b4131f9baec8044be3ea17c "TLT" 10,
  token 0x4148b79df4c6bd81e7e3910731abf64cd1db873056 "LVH" 6,
  token 0x41e117e34e522aaf7a5ff619d3bad022ce3bb229d6 "LUCK" 18,
  token 0x411dbc4a43490ab9d39c4d6c6695e3c2302cb05b51 "Lucky" 6,
  token 0x416836eecb808ae2ffe1eb53b65ad9d5b890f0be72 "LuckyCoi" 6,
  token 0x416b676128add2886f2ae3ab7db83bdea013c79044 "LuckyCo2" 6,
  token 0x41c82fee33827605e708f0830a990bae8a173fdcaf "MATest20" 6,
  token 0x41200ff39251e8b86f13c35ffc22cff8166b3f59fe "Main" 6,
  token 0x413885c83da952258cd4fd79be0554f1398e249669 "AIMI" 0,
  token 0x4182cd8b6d857ae9b6becd7ddfc6495fcb450d39c5 "MLT" 6,
  token 0x411a22567294098140839b1205defc4a538f8ea8fe "MLT" 6,
  token 0x4120e0c2ed03745f205e4bba306a0ca9f131643fb9 "MUSE" 6,
  token 0x410dc059d0906e9e945d413beeb03a58f016bce435 "TRONISH" 6,
  token 0x417435a239f5d4477b2b68bc9bbc35a5893ddfa0e3 "NEP" 2,
  token 0x417f0a35edf363b26833b4b6a25815bba6aac3dc37 "NSG" 6,
  token 0x41e5cb2dc8793ee21ef3e339c271b1cc5475b04037 "NFUN" 6,
  token 0x41989baf8d41cfdb3c81b15a2228e09ab7d7b5dcde "NOLE" 6,
  token 0x4174e2baf628a64de9c79d5ff7d47ca654cd35dca3 "NB" 0,
  token 0x4164db48149081898e0f34debbed6408c968d385ef "ND" 0,
  token 0x417ffb8aeb51f098255218154bac6d54533040708d "OODICE" 18,
  token 0x417d14f7c71f63d68911ea882be64e01037833fac6 "OODICE" 6,
  token 0x41be0375700b7417901d98c5bf5e12c8cdfdfd175e "OODICE" 6,
  token 0x41f26bb3b5a652e8182689ac4bfa36a6c02f5e09b4 "OODICE" 6,
  token 0x413a53ae592d56b0edb6ca3fd75cfdab8bc1134214 "ORY" 8,
  token 0x41425744244ca8fa650e91b42a5c73527418fbf1fa "AIOI" 0,
  token 0x413faba6b9bc8f8e1a92a6486f698fd2bca56863a6 "OCV" 6,
  token 0x419b94133f0e1799f4de52b61d8c40f8c677ce70af "OXI" 6,
  token 0x41c71652ad01cd769d0d1691732869fcda65b38690 "PERL" 6,
  token 0x41f82d6d398a9ba0da8c7384aea37230d268ca2845 "PLAY" 6,
  token 0x41f7909106acf0b4ce0f250a40e22b112af31f9fb3 "POT" 6,
  token 0x411881560c5efd3e8bdacc02bbee45e8889cf2ca0e "POT" 6,
  token 0x41573045486590cb9855ac017c27538213ab01c973 "POWER" 6,
  token 0x418e1289491aa288b8de22339dc0f43b12b3d5ff7b "POWER" 6,
  token 0x417cd1293a656753057fd2dc9563fc7960b5dd5253 "PTT" 6,
  token 0x4131906bcb318e4d78effffd31e8b8418a273cb360 "PD" 0,
  token 0x41f0efce63f8329a741b69a7f8412100b4b5ab3586 "PH" 0,
  token 0x41a9e60498f7913fd724da1df810a983bf3a92ad2f "PLACE" 8,
  token 0x41f423b9866bc909657574b1fede2dc7878367dbd8 "PLT" 0,
  token 0x4115e1059c016a3453414f74a3a2bc92e9d87fc0b5 "POL" 6,
  token 0x411adeaea4c395e4190ba39af560448878a31461ac "PRT" 6,
  token 0x414a2262fbb81aa0435a93ea72f64fa91556e24e13 "POM" 6,
  token 0x41d965809aa1fcf1e948ee74c59747b2191dc4c187 "PRK" 6,
  token 0x41d3a55bf434c50a24843370034e5defd11458c59c "PW" 6,
  token 0x414130294d754fa309aca652c531c5b1fc4e243a70 "Proc20" 6,
  token 0x415069a2e708589dd8bcd35fb50825ad5c5c33b7c3 "PGS" 6,
  token 0x41e262177f0fd5281a27261fe074314e9e5226bdfc "POL" 8,
  token 0x41e0fc581a59ef76fe89646e6819a0d1cc3aa8ec12 "QST" 6,
  token 0x41703f3b26d30e10826733b730c1186c37f54d0a93 "RET" 6,
  token 0x41f31b4cd9e3d6f3375233887d555e3f19250c7d07 "REX" 6,
  token 0x417ea07b5be5a0fe26a64acaf451c8d8653fdb56b6 "REY" 6,
  token 0x418bb66ea15a21226f982f9b4401a5ad08f9600920 "ROLL" 2,
  token 0x418c7eba8d591efdcea225b050c9dfcaf9e1eef6ae "RSC" 6,
  token 0x41da8874682741489d5238f33dd3685b20b3c0bd0c "REAL" 18,
  token 0x411e0e8e46298249b86baf3790c4e8fa522965a91a "AIRI" 0,
  token 0x41a281b52f8ca50803811ea3dcaf88d5ca6c8a0282 "RIRH" 0,
  token 0x411add97f52d8d8176300f9a87e982cb91bd3bb54e "RIRR" 0,
  token 0x41387b90b7a68deebdfd317394246eab830eee0967 "Rocket" 6,
  token 0x410b94eb133ef95f465f2518927a9eea11f916fb64 "ROCK" 6,
  token 0x4117ff1ba04135111352c001e247d0796b24114370 "ROCK" 6,
  token 0x41deb90f41e2acb66ed4d8a771252022dfac59b1c2 "ROP" 6,
  token 0x41c83f39973aa6d47b76c77cc53bf435e9e4f4204e "TMEV" 6,
  token 0x41c6629e6916d15162b996898077f6a126a392bf4a "RPT" 8,
  token 0x414cf46dbe9a72070cfd38ed1a3f6eed20e638c411 "RBB" 0,
  token 0x41ae9812524180b20a91d1989f53c0786d384efd0f "RBD" 0,
  token 0x4152fc7d65dcfe14138562367c028f6fc3f2bbd1fb "SG" 6,
  token 0x41efa8d5b46dc9ce1ffe1b12edbc559ae59d153795 "SPOK" 6,
  token 0x41b67fb03ae8cedff1d25b26c9dcfe701e52db186b "STPC" 4,
  token 0x41a53b30fe24cb62a3016dd4719ad5b6acea6ae52d "STONE" 6,
  token 0x41df02bed8aae8cf6e923e822b04ad32a678a45dd9 "Santa" 6,
  token 0x4181afd49db6ba53154e2940e5263023214006d328 "SCC" 2,
  token 0x41befff58bd7943af49261f520d823ac3487bb60e2 "SCCN" 2,
  token 0x416ab85355ea03d9e66de175221b08759aa3f3b429 "SHL" 6,
  token 0x41c8655a3c55cd4db366860a2db5702ae8209156e9 "SHL" 6,
  token 0x4170b06e8b2518d7257cd7f11023b38bf62375f717 "SOCIALIS" 6,
  token 0x410e28c93f4111d699560f0345249d7dbdf7eebcf5 "SOL" 6,
  token 0x41c1340a51ff256325f49e7b5a929321baa9cd0fef "stkn" 8,
  token 0x4162c1ae914fbb446dcea7ddfca9c02d325ccb9bdb "SFT" 6,
  token 0x411452302e1e5effef9033ca024e4e015db44f207c "TSWL" 8,
  token 0x41d6ded61dff48dc64042ce1b1b4e292bd8887d353 "TAC" 6,
  token 0x4133ea80a2bfec4eb0919c5fbadc5d8765808a2dd2 "TALC" 6,
  token 0x41c8f7904e2fae13b54b6ee358cad3e3799971bc19 "TAO" 6,
  token 0x413a8a6025075c0bbe21f177fa09db3186f4c1e276 "TAT" 6,
  token 0x412b3471d21b95041013d100a987da1145919067a5 "TBT" 18,
  token 0x416f189875b48774a5e0f7346bb69720631b2a7d11 "TEST" 8,
  token 0x41fffe20a96a6fd1c366743bebc8bd1da3687f3c8c "TEUR" 4,
  token 0x41d5738e7ff6fcbc24b37c9eb15bc867750056644e "TGOLDE" 6,
  token 0x4152c02f815b34f9cf7db49752de965745726c8b8d "TIS" 18,
  token 0x41270b0f0be9add3057428aa43e8cbde6263fcab28 "TRA" 18,
  token 0x4119753a62419416388fcc3054febb8600ce467bac "TRE" 6,
  token 0x41ffbe7a7c1d42b4ed237239791f80b70ffa672849 "GO" 6,
  token 0x41ff8b65f332984e28e25ff6625856b1257b7d4ea2 "UP" 6,
  token 0x4189e707191bd5af4ee41e394abc2c21b60e02b04a "ACE" 6,
  token 0x41af343ee4cef33492cd6b8675f99c4c53a7daaf91 "TGAME" 8,
  token 0x413b3f5fbed4de30391e9dcc3279901eb77e682410 "GAME" 6,
  token 0x415959355ea8367f4b0d834e792a4d7747f6aa917d "TIR" 6,
  token 0x41ad6b5ec768873b0cc1e433f8e0469d7e63a0641d "TM" 6,
  token 0x4176d77e1ae8ef4296cd0ea79b272d552654b4c7b0 "TMK" 6,
  token 0x41681886eb59e6f0c544a2ae7122eea7b6c6b08d97 "TWX" 6,
  token 0x411a44e676d4864660d984f6d1f4eb06d0f5cc5208 "ANTE" 6,
  token 0x41d829659f0f7661f29f12f07a5be33c13b6c9dd59 "LIVE" 6,
  token 0x41574138562ca8bd1d35068c5b21279610c1f583c4 "DICE" 6,
  token 0x41c5db4674062cec2067560cbd5b1b76b84ac42a60 "TWEET" 8,
  token 0x418b1d679c9277dcc864d5f1800d506bde1d91e337 "TRUE" 6,
  token 0x41f5d4304da3ff20b6a14aef2d1893025d959edf31 "TRXD" 18,
  token 0x4196fdea7ee6822f72d025c36cd164058fa319dc38 "TSR" 6,
  token 0x4101be7a0c9ab7543a95c06df403e79117c0612c0e "TSR" 6,
  token 0x410b3439f60acbde0ff82950c3a1cddd23bdfa06c0 "TST" 6,
  token 0x41db967a89e43d0bd20b5b1440ba66e043115bf2ea "TTT" 6,
  token 0x41cc1b574db8eb8d12a3eb74b172136cd84c0754f8 "TWN" 6,
  token 0x414001ecf3b1225f35c04c9360d7d07d66a5080a3e "TWN" 6,
  token 0x41d8a7ad240e9a0f51537322b17cdf3c8ea441d56c "TAS" 6,
  token 0x415b75fc0cfc9d3a390ff8e50e5f84ae1f18a7e606 "Test24" 6,
  token 0x416464a7f145397a398aaf1709c03e814393f5986c "TK" 6,
  token 0x41a1a91e7ad3a7ea04afe983be462d015ec7875780 "TK" 6,
  token 0x41dcbfe67fbebb1d903b5ebe5168044d77d41c372d "TT" 0,
  token 0x41a614f803b6fd780986a42c78ec9c7f77e6ded13c "USDT" 6,
  token 0x4103c6e08d49a38f074bbb6a8a863a96b916200567 "TD" 6,
  token 0x416da6cfc9f54355c13d5a38288d3612d0d8aec3c1 "TOC" 6,
  token 0x414b1d9a3f835cc8ecce58b66d0670d5fcaf038c4f "TOPIA" 8,
  token 0x411220bbcc5248e80348d01e9b410388852b02a6ee "TSHARE" 6,
  token 0x41f80e8dea758f641680af41415dea29b7f2b0f03c "TRDST" 6,
  token 0x414e0b7845b03857229f5caeca89677186decbc1ed "TPS" 8,
  token 0x41a19992476c3cc43abb7dd0c9046bfd340a239129 "TRVx" 6,
  token 0x41b935f5a2c74b67d27676ec8a727023a3b9ca9263 "T2M" 6,
  token 0x41e80fbe57b748d7a8cfce47595e4f2233f92538f9 "TATM" 8,
  token 0x418cb6301b8bbf24c2a9efd46f49e39bbef76e0bf3 "CAT" 6,
  token 0x41aebb4d958a38a0f0902a908e05340a3a6d556a1e "TCC" 6,
  token 0x410ce5cd41768e8550b6900775cbb62685b27d5f91 "TDH" 6,
  token 0x419fc6e2d070d01e73474d473b32e418c7cd9d5d5b "FUN" 6,
  token 0x41e7f441e47a781cf4037cfb4ff5f7dbaf1964851f "OWL" 6,
  token 0x41bdc6e0264a2b744624d154b2a77de2efb12f8612 "RUBY" 6,
  token 0x4159c3f4b60f1516d4fb9acb0cd32ed0b0b2c277c7 "TSCHYBRI" 2,
  token 0x41d04d1e320ff647c8957383c2883f88ad8e258ba9 "SPORT" 6,
  token 0x418be385c9c3716e286370aa5db4b6f397241dfde6 "VCOIN" 6,
  token 0x418d0ff42a82ca54541c98759a99951d9736a5de9f "TWJ" 8,
  token 0x41905aa0eeef9032f32e802ea9752ed7f467947fd4 "TWIN" 6,
  token 0x41e164776cecc2641aa98e860f12cd955ca8f23938 "TWN" 6,
  token 0x4105ad43952386ff1591575f21ffd9f9184555008c "WOW" 9,
  token 0x41b48a2a84bf19ab11307b006ebf922e356a4219fe "BABA" 6,
  token 0x415002724b47579dcf35fb45d80021def05bf3378b "TRL" 6,
  token 0x41c012d428c9e46abbe271745019a5e70a9917eebc "TNX" 6,
  token 0x41e00f3be64dbbda5ff7fbf6e5ececee5eea349d6c "KOI" 6,
  token 0x4182d6685ebcc574c91fd66a49ab24a08a062e9e6e "TDS" 6,
  token 0x414dddeea2df254b191df28769411e4f4e62db3ea7 "TWRLD" 18,
  token 0x413b1fe156a3c97fa686d64d76e263ea41c42baabc "TBX" 18,
  token 0x41137a7aae3f3107478eaa5ad45fa8d0606af55a74 "TBX" 18,
  token 0x41bb6373c0c52a31f7fdc71446c29d6d9a32f17299 "USXT" 6,
  token 0x41159735e7b0afed51255e25f3891b921089ac4717 "URT" 18,
  token 0x41ccf8a19a826c2166b476cbef19edbfa7bd9af676 "UPDC" 8,
  token 0x41820dc9f137bcb78003e23cf5f7a6e6b62886f135 "VAE" 6,
  token 0x4159d2157dde2475b67c3c070b50344337f349b946 "VT" 6,
  token 0x41ae52beda18f64caa31acb751a9197aa9b8440b52 "VET" 6,
  token 0x41c96523df8a26bd4107b664d9a0c6ca8472c0acff "vena" 6,
  token 0x41f98787e167517a90bfa73bedc18c58ab46a8c44b "VCT" 6,
  token 0x418020b966d8c982b49d12884159b9d56c51a41a3d "VIC" 6,
  token 0x41ebf34837adb3e2d93624b0130611230658e8c3f3 "VOID" 18,
  token 0x41cb0981e34a2bd3166951fe6eee7be34a747845d7 "VB" 6,
  token 0x4174472e7d35395a6b5add427eecb7f4b62ad2b071 "WIN" 6,
  token 0x41085016abab7a4376cf34e0dd925d00413281ab7d "WINNA" 6,
  token 0x41d3102336ecce90f6f5e73e4f1b2ccd2b26dfdd6a "WUXN" 6,
  token 0x415ed41b2049e042ed0681050624b6344089d3b0cf "WXN" 6,
  token 0x413bf9fac6424d5f711fbe6140b9b871366c2aefe6 "WNKR" 6,
  token 0x41c1521a7428f9b5a9f8b5925be7cb9a0e06c93c7b "WAR" 18,
  token 0x410c93d984ccd73de34b94ebcff9673c24cabfbe41 "WarToken" 6,
  token 0x41f87102fbdab4cdb11ce12a28730682e726d9c9e2 "RTTB" 6,
  token 0x414c71427b46d3e66e40f2af3fd12aa6f9d72cc3de "wBNKR" 6,
  token 0x41e6d9e5a15c0d596a1897323253319ff580b13084 "XGO" 6,
  token 0x411f0a37466c7b28276b5d00c825ff3ce8d7e016d7 "XGO" 6,
  token 0x41978d3f71976803a41d515a7354e25363309224a1 "XIO" 6,
  token 0x419bc84ff1c528dbbd7848e6726a82a9aab85c3425 "Xiao" 0,
  token 0x414872905ad4d079a9258df390a6c98a0c6dc6e18d "YHWH" 6,
  token 0x41fd41347ca521936de4c347a3dc99c854f215dfd1 "MAN" 3,
  token 0x41f5c395d566add2326ac750ffc6ad647ee2d02d25 "YL" 6,
  token 0x4142c1a105c8e5d9354ab81edbb516371770a74317 "BGG" 18,
  token 0x418f5d8c3d3c38bc5dcad2903cc205be40dcea69aa "bruce20" 6,
  token 0x41df337950283d730987ba86683cfe8937dc8d8dcf "btrt" 6,
  token 0x410a5a39f5f9a79d8ebac358ef5cbd90c03def5816 "CHK" 18,
  token 0x415cfa8b36dbc83c7de31af37c167e94cc8a81f6b7 "jiaolo20" 6,
  token 0x412663007e17ba5d0e0171105d133088f63a99cccb "NBB" 6,
  token 0x4111b9e5894d0c74991a9f88fd0eb4c4a52dbab241 "ree" 6,
  token 0x4170e9845b531956efda9fb4bda5dc6ff984535b6c "TST" 8,
  token 0x41f6a5e76e7b212d44916659e7eba98edd0ea765f4 "tGame" 10,
  token 0x415be5c9741b5ea8e1be63ce72fd42f06181241d39 "tGame" 5,
  token 0x41302d8dfddff5dbae1dd9231cc1678efdf6c22f7f "tGA" 0,
  token 0x4110a13dce33f2a780ef00a16c42801f646dc11854 "trf" 6,
  token 0x4154f91b1f0f6a1ff85d8e7503d8b060a371bc3a50 "tst" 6,
  token 0x4145e42b63fdd63c3ad6c666473a920720d3ad8ed9 "wxn" 6,
  token 0x41719000ec858b37991e4bfd6a60824043f04b5a36 "WVR" 6,
  token 0x41d4eff5fdd951d10e3e8678055ff2bc3fdb9185ca "GFT" 0,
  token 0x41deaa5f32963c919c2a5a8f8482cc8c92f504b8b2 "BET" 6,
  token 0x41f8ade63f6294b1e3256c469c05a7e08ae6f1532c "GOC" 6,
  token 0x4160464f3a6accd31f9fc87c615b89b8449d5a8a25 "BTCT" 8,
  token 0x41ad766f594424821ef26d57b45d960860e2120ce6 "BOOM!" 6,
  token 0x418d222468ca88a8bdc59d0336e66cb44ce793b910 "REWARD" 6,
  token 0x4198f4db2f433e98f6d897d6945747eea27fb5979d "FREE" 6,
  token 0x4114183f3bbca4ae9fc1de55b9bbe2d071942dc1a6 "CCT" 6,
  token 0x41834295921a488d9d42b4b3021ed1a3c39fb0f03e "USDJ" 18,
  token 0x4118fd0626daf3af02389aef3ed87db9c33f638ffa "JST" 18,
  token 0x41d8b8089856ced3038601cbeb1e3f765cabc12a41 "KLV" 6,
  token 0x41e11cdc164a9d8c1ae19d95b0165278690d39d84b "OKS" 18,
  token 0x41891cdb91d149f23b1a45d9c5ca78a88d0cb44c18 "WTRX" 6,
  token 0x416b5151320359ec18b08607c70a3b7439af626aa3 "SUNOLD" 18,
  token 0x416a6337ae47a09aea0bbd4faeb23ca94349c7b774 "WBTT" 6,
  token 0x41b4a428ab7092c2f1395f376ce297033b3bb446c1 "SUN" 18,
  token 0x413dfe637b2b9ae4190a458b5f3efc1969afe27819 "NFT" 6,
  token 0x413487b63d30b5b2c87fb7ffa8bcfade38eaac1abe "USDC" 6,
  token 0x41cebde71077b830b958c8da17bcddeeb85d0bcf25 "TUSD" 18,
  token 0x41032017411f4663b317fe77c257d28d5cd1b26e3d "BTT" 18,
  token 0x4194f24e992ca04b49c6f2a2753076ef8938ed4daa "USDD" 18]

/-- `TRONIFY_ADDRESSES` -/
def tronifyAddresses : List Address := [
  Address.ofNat 0x4129228e5d382b7a2c2a0dbc05e6d6507f4dbb3bbe,
  Address.ofNat 0x4199aa4fb789b27f45c9c5293260f922dda046014b,
  Address.ofNat 0x41e18346770a4409732b63e57abe70d347114e49bc,
  Address.ofNat 0x41eb7ca810d10c589ee078597f13b1c22954e31df1,
  Address.ofNat 0x41ea9ce6db8f7df44100d6f8524ac2fc3392631a84,
  Address.ofNat 0x41dfe0af787123bd13e4a7a3ec99e985d31241adfd,
  Address.ofNat 0x41e65cf71ba0bf890220375ebe86e75963f82bf5e9,
  Address.ofNat 0x4164711525d0966efa58f1fd3d3f25a6b70b2fe2cd,
  Address.ofNat 0x41a77e8341237a1716955e1f743511af1683380f39,
  Address.ofNat 0x41032ec34a19866a1238e70804bcae0c205e65c37c,
  Address.ofNat 0x411fc485359ec5c145f890aa8a835cdaf113e7a17f,
  Address.ofNat 0x41ecb6edffb5ed8cbdb5fa1b81d4700f748c62151f,
  Address.ofNat 0x41e7697a99c30037daab107cd4e9674063954ebe74,
  Address.ofNat 0x41074aa564a07d0c457e3d877163b6a1570e90b704,
  Address.ofNat 0x41c888b36e17958e39140051eb5d8cbc1b5c109d6d,
  Address.ofNat 0x41ed2957992c1d99691acdd3e6d0e8716f5d59329c,
  Address.ofNat 0x41316849c2dc74f3063108d8e5c92f7c71b8b37e9f,
  Address.ofNat 0x419120b519ce1b8c555c03c8c0b5531f6c152bdd88,
  Address.ofNat 0x41b0cee39b9a432660942e7c4553b97177733333c1,
  Address.ofNat 0x415ff9f9a19aca9181ee4827ccda5f0312f2a87c03,
  Address.ofNat 0x41d3f5da305de26dcada4f1769b61eddfa76177868,
  Address.ofNat 0x41f451e86257bc9b64b6ebc5aefd1cb93576c7c7ab,
  Address.ofNat 0x41356230b6bfcb9a39e48fa09f5f025d92dae8aee1,
  Address.ofNat 0x417daf06ff4a8e6ad0726becc558bf444f31ad543c,
  Address.ofNat 0x4165cccbc41a3e2155476b22c5089e75cf4322da1c,
  Address.ofNat 0x41f3944d500f000e284035eea8f938621ddcf23f9e,
  Address.ofNat 0x4110d7190fab176462abff6205d47569ba659fc038,
  Address.ofNat 0x4106cd93c19dcb15a87076551b81eb6eab6a793e9b,
  Address.ofNat 0x41f3d8a81cd8475d264b1291f81bbb1fed123f0fec,
  Address.ofNat 0x4168d49ab988623e8c70d560dcbf9bf0a6556ff79f,
  Address.ofNat 0x415099ad752a7ca01a210f9b8a84daad9228acb4c3,
  Address.ofNat 0x411bc404572f7b26728b71f22b65eb3e64d73fe51b,
  Address.ofNat 0x41693d9e8e1793c2f8baa0a3d7a747f0b56dafea65,
  Address.ofNat 0x419049dab8c6cdeb35c1f9353f64092c95dc14953b,
  Address.ofNat 0x413df9fe0691db2006380f2172d5a638515dc13292,
  Address.ofNat 0x41ae89ec61160ea246c62ee335694cfa013397d701,
  Address.ofNat 0x41ed23f1799b39518e27a1cab5c69ea47f604a8cd5,
  Address.ofNat 0x413b038a44b133fa8e05a1fd80d0e3f96372bea442,
  Address.ofNat 0x4154ef76739bda48dda2c47402d88e9bfb352da507,
  Address.ofNat 0x41ad9f638bfe3cd672f6977cecd03e415ac66894b7,
  Address.ofNat 0x41996b90bc2bdc5bcfdf154ae6dd34988c17ccaf78,
  Address.ofNat 0x417b642ed6913af0cb77b7fa094c647613ce196e34,
  Address.ofNat 0x41e4d291485a1fbd308454f9310289edef963e90fa,
  Address.ofNat 0x41cd6d9f6b6a0e33d51d84adf0f2bd782673d6a86d,
  Address.ofNat 0x41357aebeb705fc005d461f97258b8e8a40e03f7e8,
  Address.ofNat 0x418218e3e50ad6d75b1d0560da39e59ba11803a86e,
  Address.ofNat 0x41ca9ddce47b18d52210d702ffbbb2dff816c47f04]

def knownServices : List (List Address × Bytes) :=
  [(tronifyAddresses, ascii "Energy rental - Tronify")]

def getKnownServiceLabel (rawAddress : Address) : Option Bytes :=
  (knownServices.find? fun service => service.1.contains rawAddress).map (·.2)

/-- `getKnownToken` -/
def getKnownToken (contractAddress : Address) : Option TokenDefinition :=
  tokensTRC20.find? fun token => token.address = contractAddress

end TronLedger
