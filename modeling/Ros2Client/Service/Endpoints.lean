import Ros2Client.Service.Wrappers

namespace Ros2Client

/-- A sample of a request or response topic, as it was written and as every reader sees it. -/
structure Sample where
  payload : List UInt8
  encoding : RepresentationIdentifier
  identity : SampleIdentity
  relatedSampleIdentity : Option SampleIdentity
deriving DecidableEq

def Sample.info (sample : Sample) : MessageInfo where
  sequenceNumber := sample.identity.sequenceNumber
  publisher := sample.identity.writerGuid
  relatedSampleIdentity := sample.relatedSampleIdentity

def outputEncoding : RepresentationIdentifier := .cdrLe

structure Client where
  serviceMapping : ServiceMapping
  sequenceNumberGen : Int64
  clientGuid : GUID
deriving DecidableEq

variable {Request Response : Type}

/-- `first` is the default sequence number of `rustdds`. -/
def Client.new (mapping : ServiceMapping) (requestSenderGuid : GUID) (first : SequenceNumber) : Client :=
  ⟨mapping, first.value, requestSenderGuid⟩

def Client.incrementSequenceNumber (client : Client) : Client :=
  { client with sequenceNumberGen := client.sequenceNumberGen + 1 }

def Client.sequenceNumber (client : Client) : SequenceNumber := ⟨client.sequenceNumberGen⟩

def Client.genRequestId (client : Client) : RmwRequestId := ⟨client.clientGuid, client.sequenceNumber⟩

def Client.relatedSampleIdentity (client : Client) : Option SampleIdentity :=
  if client.serviceMapping = .enhanced then none else some (.ofRequestId client.genRequestId)

def Client.sentRequestId (client : Client) (written : SampleIdentity) : RmwRequestId :=
  match client.serviceMapping with
  | .enhanced => .ofSampleIdentity written
  | .basic | .cyclone => client.genRequestId

/-- `send_request` and `async_send_request`. The outcome of the DDS write, with the identity it
    gives to the sample, is `write`. -/
def Client.sendRequest (dds : Rustdds) (codec : CdrCodec Request) (client : Client) (request : Request)
    (write : Except WriteError SampleIdentity) : Client × Except WriteError (RmwRequestId × Sample) :=
  let client := client.incrementSequenceNumber
  (client, do
    let wrapper ← RequestWrapper.new dds codec client.serviceMapping client.genRequestId .cdrLe request
    let written ← write
    return (client.sentRequestId written,
      ⟨wrapper.serializedMessage, outputEncoding, written, client.relatedSampleIdentity⟩))

def Client.unwrapResponse (dds : Rustdds) (codec : CdrCodec Response) (client : Client) (sample : Sample) :
    Except ReadError (RmwRequestId × Response) :=
  (ResponseWrapper.mk sample.payload sample.encoding : ResponseWrapper Response).unwrap dds codec
    client.serviceMapping sample.info client.clientGuid

structure Server where
  serviceMapping : ServiceMapping
deriving DecidableEq

def Server.receiveRequest (dds : Rustdds) (codec : CdrCodec Request) (server : Server) (sample : Sample) :
    Except ReadError (RmwRequestId × Request) :=
  (RequestWrapper.mk sample.payload sample.encoding : RequestWrapper Request).unwrap dds codec
    server.serviceMapping sample.info

def Server.sendResponse (dds : Rustdds) (codec : CdrCodec Response) (server : Server) (requestId : RmwRequestId)
    (response : Response) (write : Except WriteError SampleIdentity) : Except WriteError Sample := do
  let wrapper ← ResponseWrapper.new dds codec server.serviceMapping requestId .cdrLe response
  let written ← write
  return ⟨wrapper.serializedMessage, outputEncoding, written, some (.ofRequestId requestId)⟩

def RawServer.receiveRequest (sample : Sample) : RmwRequestId × List UInt8 :=
  (RawRequestWrapper.mk sample.payload sample.encoding).unwrapRaw sample.info

def RawServer.sendResponse (requestId : RmwRequestId) (response : List UInt8)
    (write : Except WriteError SampleIdentity) : Except WriteError Sample := do
  let wrapper := RawResponseWrapper.newRaw response
  let written ← write
  return ⟨wrapper.serializedMessage, outputEncoding, written, some (.ofRequestId requestId)⟩

end Ros2Client
